import TestbedWatchdog.Proofs.Course.Host
import TestbedWatchdog.Rehearsal.Drill
import TestbedWatchdog.Warden

namespace TestbedWatchdog

def Equipment.noted (equipment : Equipment ω) : Equipment (ω × List String) :=
  ⟨equipment.probe.aside, equipment.switch.noted⟩

namespace Monitor

variable (equipment : Equipment ω)

def polls : Nat → Monitor → Act ω Monitor
  | 0, monitor => pure monitor
  | n + 1, monitor => do
    let (_, monitor) ← monitor.pollCycle equipment.probe equipment.switch
    polls n monitor

def polledRounds (n : Nat) (monitor : Monitor) (world : ω) : List (Round ω) :=
  rounds equipment.switch (List.replicate n equipment.probe) monitor world

def traces (n : Nat) (monitor : Monitor) (world : ω) : List (List Effect) :=
  (polledRounds equipment n monitor world).map (·.polled.trace)

variable {equipment} {monitor : Monitor} {world : ω}

theorem pollCycle_limits (probe : Probe ω) (switch : PowerSwitch ω) :
    (monitor.pollCycle probe switch world).value.2.limits = monitor.limits := by
  rw [← round_after, settled_limits]

theorem polls_limits (n : Nat) : (polls equipment n monitor world).value.limits = monitor.limits := by
  induction n generalizing monitor world with
  | zero => rfl
  | succ n ih => exact ih.trans (pollCycle_limits _ _)

theorem polls_add (one two : Nat) :
    (polls equipment (one + two) monitor world).value =
        (polls equipment two (polls equipment one monitor world).value
          (polls equipment one monitor world).world).value ∧
      (polls equipment (one + two) monitor world).world =
        (polls equipment two (polls equipment one monitor world).value
          (polls equipment one monitor world).world).world := by
  induction one generalizing monitor world with
  | zero => rw [Nat.zero_add]; exact ⟨rfl, rfl⟩
  | succ one ih => rw [Nat.succ_add]; exact ih

theorem polledRounds_add (one two : Nat) :
    polledRounds equipment (one + two) monitor world =
      polledRounds equipment one monitor world ++
        polledRounds equipment two (polls equipment one monitor world).value
          (polls equipment one monitor world).world := by
  induction one generalizing monitor world with
  | zero => rw [Nat.zero_add]; rfl
  | succ one ih => rw [Nat.succ_add]; exact congrArg _ ih

theorem traces_length (n : Nat) : (traces equipment n monitor world).length = n := by
  simp [traces, polledRounds]

theorem traces_add (one two : Nat) :
    (traces equipment (one + two) monitor world).take one = traces equipment one monitor world ∧
      (traces equipment (one + two) monitor world).drop one =
        traces equipment two (polls equipment one monitor world).value
          (polls equipment one monitor world).world := by
  have whole := congrArg (List.map (·.polled.trace)) (@polledRounds_add _ equipment monitor world one two)
  rw [List.map_append] at whole
  exact ⟨(congrArg _ whole).trans (List.take_left' (traces_length one)),
    (congrArg _ whole).trans (List.drop_left' (traces_length one))⟩

theorem polls_noted (n : Nat) (notes : List String) :
    polls equipment.noted n monitor (world, notes) =
      ⟨(polls equipment n monitor world).value,
        ((polls equipment n monitor world).world,
          notes ++ (polledRounds equipment n monitor world).flatMap (·.commanded)),
        (polls equipment n monitor world).trace⟩ := by
  induction n generalizing monitor world notes with
  | zero => simp [polls, polledRounds, rounds, pure, Act.done]
  | succ n ih =>
    have first : (Round.of equipment.switch equipment.probe monitor world).commanded =
        (monitor.escalations (equipment.probe world).value).map (·.host) := round_lawful.commanded
    simp only [polls, bind, Act.andThen, Equipment.noted, pollCycle_noted] at ih ⊢
    simp only [ih, polledRounds, List.replicate_succ, rounds, List.flatMap_cons, first,
      List.append_assoc]

end Monitor

namespace Warden

def ticks (equipment : Equipment ω) : Nat → Warden → Act ω Warden
  | 0, warden => pure warden
  | n + 1, warden => do
    let (_, warden) ← warden.tick equipment
    ticks equipment n warden

def watch (equipment : Equipment ω) (interrupt : Option Nat) (patience earlier : Nat) (warden : Warden) :
    Act ω (Option StopReason × Warden) := do
  let warden ← ticks equipment earlier warden
  warden.run equipment interrupt patience

def advanced (equipment : Equipment ω) (n : Nat) (warden : Warden) (world : ω) : Warden :=
  { warden with
    monitor := (Monitor.polls equipment n warden.monitor world).value
    cycles := warden.cycles + n }

def halt? (interrupt : Option Nat) (warden : Warden) : Option (StopReason × List LogEvent) :=
  match warden.spent? with
  | some reason => some (reason, [])
  | none => if interrupt = some warden.cycles then some (.interrupted, warden.farewell) else none

variable {equipment : Equipment ω} {warden : Warden} {world : ω} {interrupt : Option Nat}
  {reason : StopReason} {parting : List LogEvent}

theorem advanced_add (one two : Nat) : (warden.advanced equipment one world).advanced equipment two
      (Monitor.polls equipment one warden.monitor world).world =
    warden.advanced equipment (one + two) world := by
  simp [advanced, Monitor.polls_add, Nat.add_assoc]

theorem tick_eq : warden.tick equipment world =
    let done := warden.monitor.pollCycle equipment.probe equipment.switch world
    ⟨(done.value.1, warden.advanced equipment 1 world),
      (Monitor.polls equipment 1 warden.monitor world).world, done.trace⟩ := by
  simp [tick, advanced, Monitor.polls, bind, Act.andThen, pure, Act.done]

theorem ticks_eq (n : Nat) : ticks equipment n warden world =
    ⟨warden.advanced equipment n world, (Monitor.polls equipment n warden.monitor world).world,
      (Monitor.traces equipment n warden.monitor world).flatten⟩ := by
  induction n generalizing warden world with
  | zero => rfl
  | succ n ih =>
    simp only [ticks, bind, Act.andThen, tick_eq, ih, advanced_add]
    rw [Nat.add_comm 1 n]
    rfl

theorem loop_going (bound : Nat) (going : (warden.advanced equipment 1 world).halt? interrupt = none) :
    loop equipment interrupt (bound + 1) warden world =
      let done := warden.monitor.pollCycle equipment.probe equipment.switch world
      let rest := loop equipment interrupt bound (warden.advanced equipment 1 world)
        (Monitor.polls equipment 1 warden.monitor world).world
      ⟨rest.value, rest.world, done.trace ++ .wait warden.interval :: rest.trace⟩ := by
  unfold halt? at going
  simp only [loop, bind, Act.andThen, tick_eq]
  cases spent : (warden.advanced equipment 1 world).spent? with
  | some reason => simp [spent] at going
  | none =>
    have quiet : ¬ interrupt = some (warden.advanced equipment 1 world).cycles := by
      intro due
      simp [spent, due] at going
    rw [if_neg quiet]
    rfl

theorem loop_halting (bound : Nat)
    (halts : (warden.advanced equipment 1 world).halt? interrupt = some (reason, parting)) :
    loop equipment interrupt (bound + 1) warden world =
      let done := warden.monitor.pollCycle equipment.probe equipment.switch world
      ⟨(some reason, warden.advanced equipment 1 world),
        (Monitor.polls equipment 1 warden.monitor world).world, done.trace ++ parting.map .log⟩ := by
  unfold halt? at halts
  simp only [loop, bind, Act.andThen, tick_eq]
  cases spent : (warden.advanced equipment 1 world).spent? with
  | some found =>
    simp only [spent] at halts
    cases halts
    rfl
  | none =>
    simp only [spent, Option.ite_none_right_eq_some, Option.some.injEq] at halts
    obtain ⟨due, same⟩ := halts
    cases same
    simp only [if_pos due, Act.andThen, Monitor.logAll_eq, pure, Act.done, List.append_nil]

theorem loop_eq (n : Nat) {bound : Nat} (enough : n < bound)
    (going : ∀ i < n, (warden.advanced equipment (i + 1) world).halt? interrupt = none)
    (halts : (warden.advanced equipment (n + 1) world).halt? interrupt = some (reason, parting)) :
    loop equipment interrupt bound warden world =
      ⟨(some reason, warden.advanced equipment (n + 1) world),
        (Monitor.polls equipment (n + 1) warden.monitor world).world,
        [.wait warden.interval].intercalate (Monitor.traces equipment (n + 1) warden.monitor world) ++
          parting.map .log⟩ := by
  induction n generalizing bound warden world with
  | zero =>
    obtain ⟨bound, rfl⟩ := Nat.exists_eq_add_of_lt enough
    have single : Monitor.traces equipment 1 warden.monitor world =
        [(warden.monitor.pollCycle equipment.probe equipment.switch world).trace] := rfl
    rw [loop_halting _ halts, single, List.intercalate_singleton]
  | succ n ih =>
    obtain ⟨bound, rfl⟩ := Nat.exists_eq_add_of_lt enough
    have first := going 0 (Nat.succ_pos n)
    have next (i : Nat) : (warden.advanced equipment 1 world).advanced equipment (i + 1)
        (Monitor.polls equipment 1 warden.monitor world).world =
          warden.advanced equipment (i + 2) world := by
      rw [advanced_add, Nat.add_comm]
    have rest := @ih (warden.advanced equipment 1 world)
      (Monitor.polls equipment 1 warden.monitor world).world (n + 1 + bound) (by omega)
      (fun i below => next i ▸ going (i + 1) (Nat.succ_lt_succ below)) (next n ▸ halts)
    have paced : [.wait warden.interval].intercalate
          (Monitor.traces equipment (n + 2) warden.monitor world) =
        (warden.monitor.pollCycle equipment.probe equipment.switch world).trace ++
          [.wait warden.interval] ++ [.wait warden.interval].intercalate
            (Monitor.traces equipment (n + 1) (warden.advanced equipment 1 world).monitor
              (Monitor.polls equipment 1 warden.monitor world).world) :=
      List.intercalate_cons_cons
    rw [loop_going _ first, rest, paced, next n]
    simp only [List.append_assoc, List.singleton_append]
    rfl

theorem loop_cycles_le_waits (bound : Nat) :
    let done := loop equipment interrupt bound warden world
    done.value.2.cycles ≤ warden.cycles + done.trace.count (.wait warden.interval) + 1 := by
  induction bound generalizing warden world with
  | zero => exact Nat.le_add_right _ 1
  | succ bound ih =>
    cases halts : (warden.advanced equipment 1 world).halt? interrupt with
    | some ending =>
      rw [loop_halting bound halts]
      exact Nat.add_le_add_right (Nat.le_add_right _ _) 1
    | none =>
      have rest := @ih (warden.advanced equipment 1 world)
        (Monitor.polls equipment 1 warden.monitor world).world
      have counted : (warden.advanced equipment 1 world).cycles = warden.cycles + 1 := rfl
      have kept : (warden.advanced equipment 1 world).interval = warden.interval := rfl
      rw [loop_going bound halts]
      simp only [counted, kept, List.count_append, List.count_cons_self] at rest ⊢
      omega

theorem halt?_going (under : ∀ budget ∈ warden.budget, warden.cycles < budget)
    (quiet : interrupt ≠ some warden.cycles) : warden.halt? interrupt = none := by
  unfold halt? spent?
  cases given : warden.budget with
  | none => simp [quiet]
  | some budget =>
    have left := under budget given
    simp [Nat.not_le.mpr left, quiet]

theorem halt?_spent (given : warden.budget = some most) (spent : most ≤ warden.cycles) :
    warden.halt? interrupt = some (if most = 1 then .once else .cycleLimit, []) := by
  simp [halt?, spent?, given, spent]

theorem halt?_interrupted (under : ∀ budget ∈ warden.budget, warden.cycles < budget)
    (due : interrupt = some warden.cycles) :
    warden.halt? interrupt = some (.interrupted, warden.farewell) := by
  unfold halt? spent?
  cases given : warden.budget with
  | none => simp [due]
  | some budget =>
    have left := under budget given
    simp [Nat.not_le.mpr left, due]

theorem run_eq (patience : Nat) : warden.run equipment interrupt patience world =
    let rest := loop equipment interrupt (warden.budget.getD 0 + interrupt.getD 0 + 1 + patience)
      warden world
    ⟨rest.value, rest.world,
      .log (.started warden.interval warden.monitor.limits) :: rest.trace⟩ := rfl

-- Each cycle but the first comes behind a wait of at least a second, so a run that is to count past a word
-- of sixty-four bits has to wait for as many seconds.
theorem cycles_in_word (patience : Nat) (positive : 1 ≤ warden.interval) :
    let done := warden.run equipment interrupt patience world
    let seconds := done.trace.count (.wait warden.interval) * warden.interval.toNat
    warden.cycles + seconds + 1 < UInt64.size → done.value.2.cycles < UInt64.size := by
  intro done seconds short
  have counted : done.value.2.cycles ≤ warden.cycles + done.trace.count (.wait warden.interval) + 1 := by
    have started (event : LogEvent) : Effect.log event ≠ .wait warden.interval := nofun
    simp only [done, run_eq, List.count_cons_of_ne (started _)]
    exact loop_cycles_le_waits _
  have paced : done.trace.count (.wait warden.interval) ≤ seconds :=
    Nat.le_mul_of_pos_right _ (UInt64.le_iff_toNat_le.mp positive)
  omega

theorem watch_eq (patience earlier n : Nat)
    (enough : n < warden.budget.getD 0 + interrupt.getD 0 + 1 + patience)
    (going : ∀ i < n, (warden.advanced equipment (earlier + (i + 1)) world).halt? interrupt = none)
    (halts : (warden.advanced equipment (earlier + (n + 1)) world).halt? interrupt =
      some (reason, parting)) :
    watch equipment interrupt patience earlier warden world =
      let traces := Monitor.traces equipment (earlier + (n + 1)) warden.monitor world
      ⟨(some reason, warden.advanced equipment (earlier + (n + 1)) world),
        (Monitor.polls equipment (earlier + (n + 1)) warden.monitor world).world,
        (traces.take earlier).flatten ++ .log (.started warden.interval warden.monitor.limits) ::
          ([.wait warden.interval].intercalate (traces.drop earlier) ++ parting.map .log)⟩ := by
  have next (i : Nat) : (warden.advanced equipment earlier world).advanced equipment (i + 1)
      (Monitor.polls equipment earlier warden.monitor world).world =
        warden.advanced equipment (earlier + (i + 1)) world := advanced_add earlier (i + 1)
  have looped := @loop_eq _ equipment (warden.advanced equipment earlier world)
    (Monitor.polls equipment earlier warden.monitor world).world interrupt reason parting n
    ((warden.advanced equipment earlier world).budget.getD 0 + interrupt.getD 0 + 1 + patience) enough
    (fun i below => next i ▸ going i below) (next n ▸ halts)
  rw [next n] at looped
  obtain ⟨before, behind⟩ := @Monitor.traces_add _ equipment warden.monitor world earlier (n + 1)
  have kept : (warden.advanced equipment earlier world).monitor.limits = warden.monitor.limits :=
    Monitor.polls_limits earlier
  simp only [watch, bind, Act.andThen, ticks_eq, run_eq, looped, kept, before, behind,
    (Monitor.polls_add earlier (n + 1)).2]
  rfl

theorem advanced_noted (n : Nat) (notes : List String) :
    warden.advanced equipment.noted n (world, notes) = warden.advanced equipment n world := by
  simp [advanced, Monitor.polls_noted]

-- A new warden that ticks, is run, and ends behind so many cycles of the run. Taken together it has done
-- what so many polls do, and has added a line at the start of the run, a wait between each of its cycles
-- and the next, and its last words.
structure Completes (equipment : Equipment ω) (warden : Warden) (interrupt : Option Nat)
    (patience earlier executed : Nat) (world : ω) (reason : StopReason) (parting : List LogEvent) :
    Prop where
  outcome : watch equipment interrupt patience earlier warden world =
    let polled := Monitor.polls equipment (earlier + executed) warden.monitor world
    let traces := Monitor.traces equipment (earlier + executed) warden.monitor world
    ⟨(some reason, { warden with monitor := polled.value, cycles := earlier + executed }), polled.world,
      (traces.take earlier).flatten ++ .log (.started warden.interval warden.monitor.limits) ::
        ([.wait warden.interval].intercalate (traces.drop earlier) ++ parting.map .log)⟩
  -- The waits of the warden, apart from any that probe and switch may have left themselves.
  waits : (watch equipment interrupt patience earlier warden world).trace.count (.wait warden.interval) =
    (Monitor.traces equipment (earlier + executed) warden.monitor world).flatten.count
      (.wait warden.interval) + (executed - 1)
  commands : (watch equipment.noted interrupt patience earlier warden (world, [])).world.2 =
    (Monitor.polledRounds equipment (earlier + executed) warden.monitor world).flatMap (·.commanded)

theorem count_intercalate {mark : Effect} {first : List Effect} (traces : List (List Effect)) :
    ([mark].intercalate (first :: traces)).count mark =
      (first :: traces).flatten.count mark + traces.length := by
  induction traces generalizing first with
  | nil => simp
  | cons second later ih =>
    rw [List.intercalate_cons_cons, List.count_append, List.count_append, ih]
    simp
    omega

theorem count_paced {seconds : UInt64} {traces : List (List Effect)} (n : Nat)
    (length : traces.length = earlier + (n + 1)) (started : LogEvent) (parting : List LogEvent) :
    ((traces.take earlier).flatten ++ Effect.log started ::
      ([Effect.wait seconds].intercalate (traces.drop earlier) ++ parting.map .log)).count
        (.wait seconds) = traces.flatten.count (.wait seconds) + n := by
  have silent : (parting.map Effect.log).count (.wait seconds) = 0 := by
    simp [List.count_eq_zero]
  have whole : traces.flatten = (traces.take earlier).flatten ++ (traces.drop earlier).flatten := by
    rw [← List.flatten_append, List.take_append_drop]
  have left : (traces.drop earlier).length = n + 1 := by simp [length]
  obtain ⟨first, later, cut⟩ := List.exists_cons_of_length_eq_add_one left
  have rest : later.length = n := by simpa [cut] using left
  rw [whole, cut, List.count_append, List.count_append, List.count_cons_of_ne (by simp),
    List.count_append, count_intercalate, silent, rest]
  omega

theorem completes (new : warden.cycles = 0) (patience earlier n : Nat)
    (enough : n < warden.budget.getD 0 + interrupt.getD 0 + 1 + patience)
    (going : ∀ i < n, (warden.advanced equipment (earlier + (i + 1)) world).halt? interrupt = none)
    (halts : (warden.advanced equipment (earlier + (n + 1)) world).halt? interrupt =
      some (reason, parting)) :
    Completes equipment warden interrupt patience earlier (n + 1) world reason parting where
  outcome := by
    have watched := watch_eq patience earlier n enough going halts
    simpa only [advanced, new, Nat.zero_add] using watched
  waits := by
    rw [watch_eq patience earlier n enough going halts]
    exact count_paced n (Monitor.traces_length _) _ _
  commands := by
    have same (i : Nat) := @advanced_noted _ equipment warden world (earlier + (i + 1)) []
    have noted := @watch_eq _ equipment.noted warden (world, []) interrupt reason parting patience earlier n
      enough (fun i below => same i ▸ going i below) (same n ▸ halts)
    simp only [noted, Monitor.polls_noted, List.nil_append]

def lastWord (host : String) (failures : Nat) (rebooting : Bool) (waited : Nat) :
    String × List (String × FieldValue) :=
  ("dropping in-memory state",
    [("host", .text host), ("failures", .number failures), ("rebooting", .flag rebooting),
      ("waited", .number waited)])

theorem dropping_shown (ledger : Ledger) :
    (ledger.states.map LogEvent.dropping).map (fun event => (event.message, event.fields)) =
      ledger.phases.entries.map fun entry =>
        match entry.2 with
        | .failing n => lastWord entry.1 n.toNat false 0
        | .rebooting n => lastWord entry.1 0 true n.toNat := by
  unfold Ledger.states
  rw [List.map_map, List.map_map]
  refine List.map_congr_left fun entry _ => ?_
  obtain ⟨host, phase⟩ := entry
  cases phase <;> rfl

variable {monitor : Monitor} {interval : UInt64} {budget : Option Nat}

-- At least one cycle is run, however many the ticks have used up.
theorem completes_budget (most patience earlier : Nat) :
    Completes equipment { monitor := monitor, interval := interval, budget := some most } none patience
      earlier (max 1 (most - earlier)) world (if most = 1 then .once else .cycleLimit) [] := by
  have positive : max 1 (most - earlier) = most - earlier - 1 + 1 := by omega
  rw [positive]
  refine completes rfl patience earlier _ ?_ ?_ ?_
  · simp only [Option.getD_some, Option.getD_none]
    omega
  · intro i below
    refine halt?_going ?_ (by simp)
    simp only [advanced, Option.mem_def, Option.some.injEq, forall_eq']
    omega
  · refine halt?_spent rfl ?_
    simp only [advanced]
    omega

theorem completes_interrupt {k : Nat} (patience : Nat) (later : earlier < k)
    (under : ∀ most ∈ budget, k < most) :
    Completes equipment { monitor := monitor, interval := interval, budget := budget } (some k) patience
      earlier (k - earlier) world .interrupted
      (.shuttingDown k ::
        (Monitor.polls equipment k monitor world).value.ledger.states.map .dropping) := by
  have positive : k - earlier = k - earlier - 1 + 1 := by omega
  have total : earlier + (k - earlier - 1 + 1) = k := by omega
  rw [positive]
  refine completes rfl patience earlier _ ?_ ?_ ?_
  · simp only [Option.getD_some]
    omega
  · intro i below
    refine halt?_going ?_ ?_
    · intro most given
      have left := under most given
      simp only [advanced]
      omega
    · simp only [advanced, ne_eq, Option.some.injEq]
      omega
  · rw [total, halt?_interrupted]
    · simp only [farewell, advanced, Nat.zero_add]
    · intro most given
      have left := under most given
      simp only [advanced]
      omega
    · simp only [advanced, Nat.zero_add]

end Warden

-- The work of a warden with a budget and without an interrupt, and of one that is interrupted first. The
-- patience makes no difference: both come to their end.
theorem warden_ends_with_budget_or_interrupt (equipment : Equipment ω) (monitor : Monitor)
    (interval : UInt64) (earlier patience : Nat) (world : ω) :
    (∀ budget : Nat,
      let warden : Warden := { monitor := monitor, interval := interval, budget := some budget }
      let executed := max 1 (budget - earlier)
      earlier + executed = max (earlier + 1) budget ∧
      Warden.Completes equipment warden none patience earlier executed world
        (if budget = 1 then .once else .cycleLimit) []) ∧
    ∀ (budget : Option Nat) (k : Nat), earlier < k → (∀ most ∈ budget, k < most) →
      let warden : Warden := { monitor := monitor, interval := interval, budget := budget }
      let ledger := (Monitor.polls equipment k monitor world).value.ledger
      let parting := .shuttingDown k :: ledger.states.map .dropping
      earlier + (k - earlier) = k ∧
      Warden.Completes equipment warden (some k) patience earlier (k - earlier) world .interrupted
        parting ∧
      ledger.phases.hosts.Pairwise (· < ·) ∧
      parting.map (fun event => (event.message, event.fields)) =
        ("warden: shutting down", [("cycles", .number k)]) :: ledger.phases.entries.map fun entry =>
          match entry.2 with
          | .failing n => Warden.lastWord entry.1 n.toNat false 0
          | .rebooting n => Warden.lastWord entry.1 0 true n.toNat := by
  constructor
  · intro budget warden executed
    exact ⟨by omega, Warden.completes_budget budget patience earlier⟩
  · intro budget k later under warden ledger parting
    exact ⟨by omega, Warden.completes_interrupt patience later under, HostTable.hosts_ascending _,
      congrArg _ (Warden.dropping_shown ledger)⟩

-- A warden without a budget that has ticked once, and is interrupted in the second wait of its run.
def watchedNodes : Rehearsal.Script :=
  { rounds :=
      [(2, .ok (ProbeReport.parse "n1 | DOWN x\n")),
        (1, .ok (ProbeReport.parse "n2 | DOWN x\nn1 | DOWN x\n"))] }

theorem interrupted_in_third_cycle :
    let equipment : Equipment Rehearsal.Script :=
      ⟨Rehearsal.scriptedProbe [], Rehearsal.notingSwitch []⟩
    let warden : Warden := { monitor := { limits := ⟨2, 5⟩ }, interval := 60 }
    let done := Warden.watch equipment (some 3) 0 1 warden watchedNodes
    1 < 3 ∧ (∀ most ∈ warden.budget, 3 < most) ∧ done.value.1 = some .interrupted ∧
      done.value.2.cycles = 3 ∧ done.world.issued = ["n1"] ∧ done.trace.count (.wait 60) = 1 ∧
      done.value.2.farewell.map (fun event => (event.message, event.fields)) =
        [("warden: shutting down", [("cycles", .number 3)]), Warden.lastWord "n1" 0 true 1,
          Warden.lastWord "n2" 1 false 0] := by
  intro equipment warden done
  have under : ∀ most ∈ warden.budget, 3 < most := by simp [warden]
  obtain ⟨_, completed, _⟩ := (warden_ends_with_budget_or_interrupt equipment warden.monitor 60 1 0
    watchedNodes).2 none 3 (by decide) under
  have reason : done.value.1 = some .interrupted := by
    simp only [done]
    rw [completed.outcome]
  have cycles : done.value.2.cycles = 3 := by
    simp only [done]
    rw [completed.outcome]
  have waits : done.trace.count (.wait 60) = 0 + (3 - 1 - 1) := completed.waits.trans (by decide +kernel)
  have issued : done.world.issued = ["n1"] := by decide +kernel
  have lines : done.value.2.farewell.map (fun event => (event.message, event.fields)) =
      [("warden: shutting down", [("cycles", .number 3)]), Warden.lastWord "n1" 0 true 1,
        Warden.lastWord "n2" 1 false 0] := by decide +kernel
  exact ⟨by decide, under, reason, cycles, issued, waits, lines⟩

end TestbedWatchdog
