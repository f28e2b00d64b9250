import Mathlib.Algebra.Order.Floor.Div
import TestbedWatchdog.Proofs.Outage

namespace TestbedWatchdog

-- The failed checks that lie between two power cycles of a host, the second included.
def Limits.spacing (limits : Limits) : Nat := min limits.first (limits.rebootLimit.toNat + 1)

theorem Limits.spacing_pos (limits : Limits) : 0 < limits.spacing := by
  have bounds := limits.first_bounds
  unfold spacing
  omega

namespace Phase

def counter : Option Phase → Nat
  | none => 0
  | some (failing n) => n.toNat
  | some (rebooting n) => n.toNat

theorem counter_counted (phase : Option Phase) :
    1 ≤ counter (some (counted phase)) ∧ counter (some (counted phase)) ≤ counter phase + 1 := by
  match phase with
  | none => simp [counted, counter]
  | some (failing n) => simp only [counted, counter, bump_toNat]; omega
  | some (rebooting n) => simp only [counted, counter, bump_toNat]; omega

theorem spacing_of_due {phase : Phase} (some : 1 ≤ counter (some phase))
    (due : (due? limits phase).isSome) : limits.spacing ≤ counter (.some phase) := by
  unfold Limits.spacing Limits.first
  cases phase with
  | failing n =>
    have reached : limits.failureLimit ≤ n := by
      by_contra early
      simp [due?, early] at due
    have bound := UInt32.le_iff_toNat_le.mp reached
    simp only [counter] at *
    omega
  | rebooting n =>
    have passed : limits.rebootLimit < n := by
      by_contra early
      simp [due?, early] at due
    have bound := UInt32.lt_iff_toNat_lt.mp passed
    simp only [counter] at *
    omega

def cycles (limits : Limits) : Option Phase → List Sighting → Nat
  | _, [] => 0
  | phase, seen :: later =>
    (if (escalation? limits phase seen).isSome then 1 else 0) + cycles limits (next limits phase seen) later

theorem cycles_unknown : cycles limits phase (.unknown :: later) = cycles limits phase later :=
  Nat.zero_add _

theorem cycles_clear : cycles limits phase (.clear :: later) = cycles limits none later :=
  Nat.zero_add _

theorem cycles_due (due : (due? limits (Phase.counted phase)).isSome) :
    cycles limits phase (.down :: later) = cycles limits (some (rebooting 0)) later + 1 := by
  simp [cycles, escalation?, next, checked, due, Nat.add_comm]

theorem cycles_early (early : ¬ (due? limits (Phase.counted phase)).isSome) :
    cycles limits phase (.down :: later) = cycles limits (some (Phase.counted phase)) later := by
  simp [cycles, escalation?, next, checked, early]

-- What the host remembers at the start may count towards the first power cycle, but not for all of it.
theorem cycles_spaced (limits : Limits) (phase : Option Phase) (sightings : List Sighting) :
    cycles limits phase sightings * limits.spacing ≤
      sightings.count .down + min (counter phase) (limits.spacing - 1) := by
  induction sightings generalizing phase with
  | nil => simp [cycles]
  | cons seen later ih =>
    cases seen with
    | unknown =>
      rw [cycles_unknown, List.count_cons_of_ne (by decide)]
      exact ih phase
    | clear =>
      have rest := ih none
      rw [cycles_clear, List.count_cons_of_ne (by decide)]
      have nothing : counter none = 0 := rfl
      omega
    | down =>
      obtain ⟨counted, once⟩ := counter_counted phase
      rw [List.count_cons_self]
      by_cases due : (due? limits (Phase.counted phase)).isSome
      · have rest := ih (some (rebooting 0))
        have enough := spacing_of_due counted due
        have nothing : counter (some (rebooting 0)) = 0 := rfl
        rw [cycles_due due, Nat.add_mul]
        omega
      · have rest := ih (some (Phase.counted phase))
        rw [cycles_early due]
        omega

end Phase

namespace Monitor

variable {monitor : Monitor} {switch : PowerSwitch ω} {probes : List (Probe ω)} {world : ω}

theorem commanded_cycles :
    ((rounds switch probes monitor world).map (·.commanded.count host)).sum =
      Phase.cycles monitor.limits (monitor.phase host)
        ((rounds switch probes monitor world).map fun round => .ofResult host round.found) := by
  induction probes generalizing monitor world with
  | nil => rfl
  | cons probe later ih =>
    have first : Round.Lawful (.of switch probe monitor world) := round_lawful
    simp only [rounds, List.map_cons, List.sum_cons, Phase.cycles]
    rw [commanded_count first, ih, ← round_after, settled_phase, settled_limits]
    rfl

theorem rounds_take : (rounds switch probes monitor world).take n =
    rounds switch (probes.take n) monitor world := by
  induction probes generalizing monitor world n with
  | nil => simp [rounds]
  | cons probe later ih =>
    cases n with
    | zero => rfl
    | succ n => simp [rounds, ih]

theorem rounds_drop (switch : PowerSwitch ω) (probes : List (Probe ω)) (monitor : Monitor) (world : ω)
    (n : Nat) : ∃ (between : Monitor) (later : ω), between.limits = monitor.limits ∧
      (rounds switch probes monitor world).drop n = rounds switch (probes.drop n) between later := by
  induction probes generalizing monitor world n with
  | nil => exact ⟨monitor, world, rfl, List.drop_nil.trans (by rw [List.drop_nil]; rfl)⟩
  | cons probe later ih =>
    cases n with
    | zero => exact ⟨monitor, world, rfl, rfl⟩
    | succ n =>
      let done := monitor.pollCycle probe switch world
      obtain ⟨between, after, same, left⟩ := ih done.value.2 done.world n
      refine ⟨between, after, same.trans ?_, left⟩
      rw [← round_after, settled_limits]

end Monitor

theorem commands_le_failed_ceilDiv_spacing (limits : Limits) (session : Option Session)
    (switch : PowerSwitch ω) (probes : List (Probe ω)) (world : ω) (host : String)
    (start length : Nat) :
    let rounds := Monitor.rounds switch probes (Monitor.fresh limits session) world
    let window := (rounds.drop start).take length
    let failed := window.countP fun round => Sighting.ofResult host round.found = .down
    let spacing := min (max limits.failureLimit.toNat 1) (limits.rebootLimit.toNat + 1)
    (window.flatMap (·.commanded)).count host ≤ failed ⌈/⌉ spacing := by
  intro rounds window failed spacing
  obtain ⟨between, later, same, left⟩ :=
    Monitor.rounds_drop switch probes (Monitor.fresh limits session) world start
  have stretch : window = Monitor.rounds switch ((probes.drop start).take length) between later := by
    rw [← Monitor.rounds_take, ← left]
  have commanded : (window.flatMap (·.commanded)).count host = Phase.cycles limits
      (between.phase host) (window.map fun round => .ofResult host round.found) := by
    rw [List.count_flatMap, stretch]
    exact Monitor.commanded_cycles.trans (by rw [same]; rfl)
  have counted : (window.map fun round => Sighting.ofResult host round.found).count .down = failed := by
    simp only [failed, List.count, List.countP_map, Function.comp_def, beq_eq_decide]
  have spaced := Phase.cycles_spaced limits (between.phase host)
    (window.map fun round => .ofResult host round.found)
  have positive := limits.spacing_pos
  rw [commanded, Nat.ceilDiv_eq_add_pred_div]
  change _ ≤ (failed + limits.spacing - 1) / limits.spacing
  rw [Nat.le_div_iff_mul_le positive]
  omega

end TestbedWatchdog
