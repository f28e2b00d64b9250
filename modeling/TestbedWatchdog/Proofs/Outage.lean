import Mathlib.Data.List.Induction
import TestbedWatchdog.Proofs.Course.Host

namespace TestbedWatchdog

namespace Limits

-- The failed check that brings the first power cycle. It takes one even if the limit is zero.
def first (limits : Limits) : Nat := max limits.failureLimit.toNat 1

-- The wait of a host that has failed so many checks since its first power cycle. A limit at the greatest
-- count is never passed, and the wait stays at it.
def wait (limits : Limits) (since : Nat) : Nat :=
  if limits.rebootLimit.toNat < 0xFFFFFFFF then since % (limits.rebootLimit.toNat + 1)
  else min since 0xFFFFFFFF

def Repeats (limits : Limits) (since : Nat) : Prop :=
  0 < since ∧ limits.rebootLimit.toNat < 0xFFFFFFFF ∧ since % (limits.rebootLimit.toNat + 1) = 0

theorem first_bounds (limits : Limits) : 1 ≤ limits.first ∧ limits.first ≤ 0xFFFFFFFF := by
  have bound := limits.failureLimit.toNat_lt
  unfold first
  omega

def waited (limits : Limits) (since : Nat) : Nat := min (limits.wait since + 1) 0xFFFFFFFF

theorem repeats_succ (limits : Limits) (since : Nat) :
    limits.Repeats (since + 1) ↔ limits.rebootLimit.toNat < limits.waited since := by
  have below : since % (limits.rebootLimit.toNat + 1) < limits.rebootLimit.toNat + 1 :=
    Nat.mod_lt since (Nat.succ_pos _)
  unfold Repeats waited wait
  rw [Nat.succ_mod_succ_eq_zero_iff]
  split <;> omega

theorem wait_succ (limits : Limits) (since : Nat) : limits.wait (since + 1) =
    if limits.rebootLimit.toNat < limits.waited since then 0 else limits.waited since := by
  have bound := limits.rebootLimit.toNat_lt
  have below : since % (limits.rebootLimit.toNat + 1) < limits.rebootLimit.toNat + 1 :=
    Nat.mod_lt since (Nat.succ_pos _)
  unfold waited wait
  by_cases passable : limits.rebootLimit.toNat < 0xFFFFFFFF
  · simp only [passable, if_true]
    rw [← Nat.mod_add_mod]
    by_cases last : since % (limits.rebootLimit.toNat + 1) = limits.rebootLimit.toNat
    · rw [last, Nat.mod_self, if_pos (by omega)]
    · rw [Nat.mod_eq_of_lt (by omega), if_neg (by omega)]
      omega
  · simp only [passable, if_false]
    rw [if_neg (by omega)]
    omega

theorem waited_of_passed {limits : Limits} (passed : limits.rebootLimit.toNat < limits.waited since) :
    limits.waited since = limits.rebootLimit.toNat + 1 := by
  have below : since % (limits.rebootLimit.toNat + 1) < limits.rebootLimit.toNat + 1 :=
    Nat.mod_lt since (Nat.succ_pos _)
  unfold waited wait at *
  by_cases passable : limits.rebootLimit.toNat < 0xFFFFFFFF
  · simp only [passable, if_true] at *
    omega
  · omega

end Limits

namespace Phase

def Fits (limits : Limits) (down : Nat) : Option Phase → Prop
  | none => down = 0
  | some (failing n) => n.toNat = down ∧ 1 ≤ down ∧ down < limits.first
  | some (rebooting n) => n.toNat = limits.wait (down - limits.first) ∧ limits.first ≤ down

theorem counted_of_fits (fits : Fits limits down phase) :
    (down < limits.first ∧ ∃ n, counted phase = failing n ∧ n.toNat = down + 1) ∨
      (limits.first ≤ down ∧ ∃ n, counted phase = rebooting n ∧
        n.toNat = limits.waited (down - limits.first)) := by
  have bounds := limits.first_bounds
  match phase, fits with
  | none, fresh => exact .inl ⟨by rw [fresh]; omega, 1, rfl, by rw [fresh]; rfl⟩
  | some (failing n), ⟨count, _, below⟩ =>
    refine .inl ⟨below, bump n, rfl, ?_⟩
    rw [bump_toNat]
    omega
  | some (rebooting n), ⟨count, past⟩ =>
    refine .inr ⟨past, bump n, rfl, ?_⟩
    rw [bump_toNat, count]
    rfl

-- The count goes up one by one, so a host that reaches the limit does not pass it.
theorem due?_failing (below : down < limits.first) (count : n.toNat = down + 1) :
    due? limits (failing n) = if down + 1 = limits.first then some .initial else none := by
  have reached : limits.failureLimit ≤ n ↔ down + 1 = limits.first := by
    rw [UInt32.le_iff_toNat_le, count]
    unfold Limits.first at *
    omega
  simp only [due?, reached]

theorem due?_rebooting (count : n.toNat = limits.waited since) :
    due? limits (rebooting n) =
      if limits.rebootLimit.toNat < limits.waited since then some (.again n) else none := by
  simp only [due?, UInt32.lt_iff_toNat_lt, count]

-- The length of the outage is all that there is to know about the phase.
theorem eq_none_of_fits (fits : Fits limits down phase) : phase = none ↔ down = 0 := by
  have bounds := limits.first_bounds
  match phase, fits with
  | none, fresh => exact ⟨fun _ => fresh, fun _ => rfl⟩
  | some (failing n), ⟨_, counted, _⟩ => simp; omega
  | some (rebooting n), ⟨_, past⟩ => simp; omega

theorem eq_failing_of_fits (fits : Fits limits down phase) :
    phase = some (failing n) ↔ n.toNat = down ∧ 1 ≤ down ∧ down < limits.first := by
  match phase, fits with
  | none, fresh =>
    have none : down = 0 := fresh
    simp; omega
  | some (failing m), ⟨count, counted, below⟩ =>
    constructor
    · intro same
      cases same
      exact ⟨count, counted, below⟩
    · intro counted
      obtain ⟨same, _⟩ := counted
      rw [UInt32.toNat_inj.mp (count.trans same.symm)]
  | some (rebooting m), ⟨_, past⟩ => simp; omega

theorem eq_rebooting_of_fits (fits : Fits limits down phase) (past : limits.first ≤ down) :
    ∃ n, phase = some (rebooting n) ∧ n.toNat = limits.wait (down - limits.first) := by
  have bounds := limits.first_bounds
  match phase, fits with
  | none, fresh =>
    have none : down = 0 := fresh
    omega
  | some (failing n), ⟨_, _, below⟩ => omega
  | some (rebooting n), ⟨count, _⟩ => exact ⟨n, rfl, count⟩

theorem fits_down (fits : Fits limits down phase) : Fits limits (down + 1) (next limits phase .down) := by
  obtain ⟨below, n, same, count⟩ | ⟨past, n, same, count⟩ := counted_of_fits fits
  · simp only [next, same, checked, due?_failing below count]
    by_cases reached : down + 1 = limits.first
    · simp [reached, Fits, Limits.wait]
    · have still : down + 1 < limits.first := by omega
      simp [reached, Fits, count, still]
  · have since : down + 1 - limits.first = down - limits.first + 1 := by omega
    have later : limits.first ≤ down + 1 := by omega
    have step := limits.wait_succ (down - limits.first)
    simp only [next, same, checked, due?_rebooting count]
    by_cases passed : limits.rebootLimit.toNat < limits.waited (down - limits.first)
    · simp [passed, Fits, since, later, step]
    · simp [passed, Fits, since, later, step, count]

theorem initial_of_fits (fits : Fits limits down phase) :
    escalation? limits phase .down = some .initial ↔ down + 1 = limits.first := by
  obtain ⟨below, n, same, count⟩ | ⟨past, n, same, count⟩ := counted_of_fits fits
  · simp [escalation?, same, due?_failing below count]
  · have later : down + 1 ≠ limits.first := by omega
    simp [escalation?, same, due?_rebooting count, later]

theorem again_of_fits (fits : Fits limits down phase) :
    escalation? limits phase .down = some (.again checks) ↔
      limits.Repeats (down + 1 - limits.first) ∧ checks.toNat = limits.rebootLimit.toNat + 1 := by
  obtain ⟨below, n, same, count⟩ | ⟨past, n, same, count⟩ := counted_of_fits fits
  · have early : down + 1 - limits.first = 0 := by omega
    simp [escalation?, same, due?_failing below count, early, Limits.Repeats]
  · have since : down + 1 - limits.first = down - limits.first + 1 := by omega
    rw [since, Limits.repeats_succ]
    simp only [escalation?, same, due?_rebooting count, Option.ite_none_right_eq_some,
      Option.some.injEq, EscalationKind.again.injEq]
    refine and_congr_right fun passed => ?_
    rw [← Limits.waited_of_passed passed, ← count, UInt32.toNat_inj]
    exact eq_comm

end Phase

-- The failed checks of a host since it was last clear; where there is no word of it the outage goes on.
def outage (host : String) (results : List (Except Error ProbeReport)) : Nat :=
  ((results.map (.ofResult host)).reverse.takeWhile (· ≠ Sighting.clear)).count .down

theorem outage_append : outage host (results ++ [found]) =
    match Sighting.ofResult host found with
    | .down => outage host results + 1
    | .unknown => outage host results
    | .clear => 0 := by
  unfold outage
  cases seen : Sighting.ofResult host found <;> simp [seen]

theorem fits_outage {monitor : Monitor} (fresh : monitor.phase host = none)
    (results : List (Except Error ProbeReport)) :
    Phase.Fits monitor.limits (outage host results) ((results.foldl Monitor.settled monitor).phase host) := by
  induction results using List.reverseRecOn with
  | nil => exact fresh ▸ rfl
  | append_singleton results found ih =>
    rw [List.foldl_append, List.foldl_cons, List.foldl_nil, Monitor.settled_phase,
      Monitor.foldl_settled_limits, outage_append]
    cases Sighting.ofResult host found with
    | down => exact Phase.fits_down ih
    | unknown => exact ih
    | clear => rfl

namespace Monitor

def fresh (limits : Limits) (session : Option Session) : Monitor := { limits := limits, session := session }

variable {monitor : Monitor} {switch : PowerSwitch ω} {probes : List (Probe ω)} {world : ω}
  {round : Round ω}

theorem round_escalation (new : monitor.phase host = none)
    (present : (rounds switch probes monitor world)[i]? = some round) (kind : EscalationKind) :
    let now := outage host (((rounds switch probes monitor world).take (i + 1)).map (·.found))
    let first := monitor.limits.first
    ⟨host, kind⟩ ∈ round.report.escalations ↔ Sighting.ofResult host round.found = .down ∧
      match kind with
      | .initial => now = first
      | .again checks =>
        monitor.limits.Repeats (now - first) ∧ checks.toNat = monitor.limits.rebootLimit.toNat + 1 := by
  intro now first
  obtain ⟨lawful, before⟩ := rounds_getElem? present
  have fits := fits_outage new (((rounds switch probes monitor world).take i).map (·.found))
  rw [lawful.escalations, mem_escalations, before, foldl_settled_limits]
  cases seen : Sighting.ofResult host round.found with
  | unknown => simp [Phase.escalation?]
  | clear => simp [Phase.escalation?]
  | down =>
    have step : now = outage host (((rounds switch probes monitor world).take i).map (·.found)) + 1 := by
      simp only [now]
      rw [List.take_add_one, present, List.map_append]
      exact outage_append.trans (by rw [seen])
    rw [step]
    cases kind with
    | initial => simpa using Phase.initial_of_fits fits
    | again checks => simpa using Phase.again_of_fits fits

end Monitor

-- Phase and power cycles of a host after any course: both are functions of the length of its outage.
theorem outage_decides (limits : Limits) (session : Option Session) (switch : PowerSwitch ω)
    (probes : List (Probe ω)) (world : ω) (host : String) :
    let new := Monitor.fresh limits session
    let rounds := Monitor.rounds switch probes new world
    let phase := (Monitor.ending switch probes new world).phase host
    let down := outage host (rounds.map (·.found))
    let first := max limits.failureLimit.toNat 1
    let reboot := limits.rebootLimit.toNat
    (phase = none ↔ down = 0) ∧
    (∀ n, phase = some (.failing n) ↔ n.toNat = down ∧ 1 ≤ down ∧ down < first) ∧
    (first ≤ down → ∃ n, phase = some (.rebooting n) ∧ n.toNat =
      if reboot < 0xFFFFFFFF then (down - first) % (reboot + 1) else min (down - first) 0xFFFFFFFF) ∧
    rounds.length = probes.length ∧
    ∀ i : Fin rounds.length,
      let round := rounds.get i
      let isDown := Sighting.ofResult host round.found = .down
      let now := outage host ((rounds.take (i + 1)).map (·.found))
      let repeats := first < now ∧ reboot < 0xFFFFFFFF ∧ (now - first) % (reboot + 1) = 0
      (host ∈ round.commanded ↔ isDown ∧ (now = first ∨ repeats)) ∧
      round.commanded.count host ≤ 1 ∧
      (⟨host, .initial⟩ ∈ round.report.escalations ↔ isDown ∧ now = first) ∧
      ∀ checks, ⟨host, .again checks⟩ ∈ round.report.escalations ↔
        isDown ∧ repeats ∧ checks.toNat = reboot + 1 := by
  intro new rounds phase down first reboot
  have fits : Phase.Fits limits down phase := by
    simp only [phase, Monitor.ending_eq]
    exact fits_outage rfl _
  refine ⟨Phase.eq_none_of_fits fits, fun _ => Phase.eq_failing_of_fits fits,
    Phase.eq_rebooting_of_fits fits, Monitor.rounds_length, ?_⟩
  intro i round isDown now repeats
  have present : rounds[i.val]? = some round := List.getElem?_eq_getElem i.isLt
  have lawful := (Monitor.rounds_getElem? present).1
  have fresh : new.phase host = none := rfl
  have due := Monitor.round_escalation fresh present
  have again : limits.Repeats (now - first) ↔ repeats := by
    simp only [Limits.Repeats, repeats, Nat.sub_pos_iff_lt, reboot]
  refine ⟨?_, ?_, due .initial, fun checks => ?_⟩
  · rw [Monitor.commanded_iff lawful, ← again]
    constructor
    · intro commanded
      obtain ⟨kind, escalated⟩ := commanded
      obtain ⟨down, reason⟩ := (due kind).mp escalated
      cases kind with
      | initial => exact ⟨down, .inl reason⟩
      | again checks => exact ⟨down, .inr reason.1⟩
    · intro due
      obtain ⟨down, reached | ⟨later, passable, even⟩⟩ := due
      · exact ⟨.initial, (due .initial).mpr ⟨down, reached⟩⟩
      · have fit : limits.rebootLimit.toNat + 1 < 2 ^ 32 := by omega
        refine ⟨.again (.ofNat (reboot + 1)), (due _).mpr ⟨down, ⟨later, passable, even⟩, ?_⟩⟩
        exact UInt32.toNat_ofNat_of_lt fit
  · rw [Monitor.commanded_count lawful]
    split <;> omega
  · rw [← again]
    exact due (.again checks)

end TestbedWatchdog
