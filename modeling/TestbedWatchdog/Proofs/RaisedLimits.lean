import TestbedWatchdog.Proofs.RebootRate
import TestbedWatchdog.Rehearsal.Drill

namespace TestbedWatchdog

namespace Limits

def further (limits : Limits) (since : Nat) : Nat :=
  if limits.rebootLimit.toNat < 0xFFFFFFFF then since / (limits.rebootLimit.toNat + 1) else 0

def commands (limits : Limits) (down : Nat) : Nat :=
  if down < limits.first then 0 else limits.further (down - limits.first) + 1

instance (limits : Limits) (since : Nat) : Decidable (limits.Repeats since) :=
  inferInstanceAs (Decidable (_ ∧ _ ∧ _))

theorem further_succ (limits : Limits) (since : Nat) :
    limits.further (since + 1) = limits.further since + if limits.Repeats (since + 1) then 1 else 0 := by
  by_cases passable : limits.rebootLimit.toNat < 0xFFFFFFFF
  · simp [further, Repeats, passable, Nat.succ_div, Nat.dvd_iff_mod_eq_zero]
  · simp [further, Repeats, passable]

theorem commands_zero (limits : Limits) : limits.commands 0 = 0 :=
  if_pos limits.first_bounds.1

theorem commands_succ (limits : Limits) (down : Nat) : limits.commands (down + 1) =
    limits.commands down +
      if down + 1 = limits.first ∨ limits.Repeats (down + 1 - limits.first) then 1 else 0 := by
  rcases Nat.lt_trichotomy (down + 1) limits.first with early | reached | past
  · have before : down < limits.first := by omega
    have since : down + 1 - limits.first = 0 := by omega
    simp [commands, Repeats, early, before, since, Nat.ne_of_lt early]
  · have before : down < limits.first := by omega
    simp [commands, further, reached, before]
  · have since : down + 1 - limits.first = down - limits.first + 1 := by omega
    have already : ¬ down < limits.first := by omega
    have still : ¬ down + 1 < limits.first := by omega
    simp only [commands, since, already, still, if_false, Nat.ne_of_gt past, false_or, further_succ]
    omega

theorem first_mono {low high : Limits} (failure : low.failureLimit ≤ high.failureLimit) :
    low.first ≤ high.first := by
  have bound := UInt32.le_iff_toNat_le.mp failure
  unfold first
  omega

theorem further_le {low high : Limits} (reboot : low.rebootLimit ≤ high.rebootLimit)
    (sooner : one ≤ two) : high.further one ≤ low.further two := by
  have wider := UInt32.le_iff_toNat_le.mp reboot
  unfold further
  by_cases passable : high.rebootLimit.toNat < 0xFFFFFFFF
  · rw [if_pos passable, if_pos (by omega)]
    exact Nat.div_le_div sooner (Nat.succ_le_succ wider) (Nat.succ_ne_zero _)
  · rw [if_neg passable]
    exact Nat.zero_le _

theorem commands_antitone {low high : Limits} (failure : low.failureLimit ≤ high.failureLimit)
    (reboot : low.rebootLimit ≤ high.rebootLimit) (down : Nat) :
    high.commands down ≤ low.commands down := by
  have later := first_mono failure
  unfold commands
  by_cases early : down < high.first
  · rw [if_pos early]
    exact Nat.zero_le _
  · have reached : ¬ down < low.first := by omega
    rw [if_neg early, if_neg reached]
    exact Nat.succ_le_succ (further_le reboot (Nat.sub_le_sub_left later down))

end Limits

namespace Phase

theorem escalates_of_fits (fits : Fits limits down phase) :
    (escalation? limits phase .down).isSome = true ↔
      down + 1 = limits.first ∨ limits.Repeats (down + 1 - limits.first) := by
  obtain ⟨below, n, same, count⟩ | ⟨past, n, same, count⟩ := counted_of_fits fits
  · have early : down + 1 - limits.first = 0 := by omega
    simp [escalation?, same, due?_failing below count, early, Limits.Repeats]
  · have later : down + 1 ≠ limits.first := by omega
    have since : down + 1 - limits.first = down - limits.first + 1 := by omega
    simp [escalation?, same, due?_rebooting count, later, since, Limits.repeats_succ]

theorem commands_of_fits (fits : Fits limits down phase) : limits.commands (down + 1) =
    limits.commands down + if (escalation? limits phase .down).isSome then 1 else 0 := by
  simp only [Limits.commands_succ, escalates_of_fits fits]

-- The power cycles of the outage so far belong to the comparison: the two sides may be ahead of each
-- other by as much as an outage can bring, and settle when it ends.
theorem cycles_antitone {low high : Limits} (failure : low.failureLimit ≤ high.failureLimit)
    (reboot : low.rebootLimit ≤ high.rebootLimit) (sightings : List Sighting)
    (fits : Fits low down phase) (others : Fits high down other) :
    cycles high other sightings + high.commands down ≤ cycles low phase sightings + low.commands down := by
  have fewer := Limits.commands_antitone failure reboot down
  induction sightings generalizing down phase other with
  | nil => simpa [cycles] using fewer
  | cons seen later ih =>
    cases seen with
    | unknown =>
      rw [cycles_unknown, cycles_unknown]
      exact ih fits others fewer
    | clear =>
      have rest := @ih 0 none none rfl rfl (Limits.commands_antitone failure reboot 0)
      rw [Limits.commands_zero, Limits.commands_zero] at rest
      rw [cycles_clear, cycles_clear]
      omega
    | down =>
      have rest := ih (fits_down fits) (fits_down others) (Limits.commands_antitone failure reboot _)
      rw [commands_of_fits fits, commands_of_fits others] at rest
      simp only [cycles]
      omega

end Phase

namespace Monitor

variable {switch : PowerSwitch ω} {probes : List (Probe ω)} {monitor : Monitor} {world : ω}

theorem commanded_count_take (length : Nat) (host : String) :
    (((rounds switch probes monitor world).take length).flatMap (·.commanded)).count host =
      Phase.cycles monitor.limits (monitor.phase host)
        ((((rounds switch probes monitor world).map (·.found)).take length).map (.ofResult host)) := by
  rw [← List.map_take, rounds_take, List.count_flatMap]
  exact commanded_cycles.trans (by rw [List.map_map]; rfl)

theorem fits_ending (new : monitor.phase host = none) (length : Nat) :
    Phase.Fits monitor.limits
      (outage host (((rounds switch probes monitor world).map (·.found)).take length))
      ((ending switch (probes.take length) monitor world).phase host) := by
  rw [ending_eq, ← rounds_take, List.map_take]
  exact fits_outage new _

end Monitor

theorem raised_limits_never_command_more (low high : Limits)
    (failure : low.failureLimit ≤ high.failureLimit) (reboot : low.rebootLimit ≤ high.rebootLimit)
    (session : Option Session) (switch : PowerSwitch α) (other : PowerSwitch β)
    (probes : List (Probe α)) (otherProbes : List (Probe β)) (world : α) (otherWorld : β)
    (same : (Monitor.rounds switch probes (Monitor.fresh low session) world).map (·.found) =
      (Monitor.rounds other otherProbes (Monitor.fresh high session) otherWorld).map (·.found))
    (length : Nat) :
    let rounds := (Monitor.rounds switch probes (Monitor.fresh low session) world).take length
    let others :=
      (Monitor.rounds other otherProbes (Monitor.fresh high session) otherWorld).take length
    let last := Monitor.ending switch (probes.take length) (Monitor.fresh low session) world
    let otherLast :=
      Monitor.ending other (otherProbes.take length) (Monitor.fresh high session) otherWorld
    last.ledger.phases.hosts = otherLast.ledger.phases.hosts ∧
      ∀ host, (others.flatMap (·.commanded)).count host ≤ (rounds.flatMap (·.commanded)).count host := by
  intro rounds others last otherLast
  constructor
  · apply HostTable.hosts_eq_of_known
    intro host
    have fits : Phase.Fits low _ (last.phase host) := Monitor.fits_ending rfl length
    have otherFits : Phase.Fits high _ (otherLast.phase host) := Monitor.fits_ending rfl length
    rw [← same] at otherFits
    exact (Phase.eq_none_of_fits fits).trans (Phase.eq_none_of_fits otherFits).symm
  · intro host
    simp only [rounds, others]
    rw [Monitor.commanded_count_take, Monitor.commanded_count_take, same]
    have new : Phase.Fits low 0 none := rfl
    have otherNew : Phase.Fits high 0 none := rfl
    have compared := Phase.cycles_antitone failure reboot
      (((Monitor.rounds other otherProbes (Monitor.fresh high session) otherWorld).map (·.found)).take
        length |>.map (.ofResult host)) new otherNew
    rw [Limits.commands_zero, Limits.commands_zero] at compared
    exact compared

-- A host that fails for four cycles, answers, and fails again.
def flapping : Rehearsal.Script :=
  { rounds :=
      [(4, .ok (ProbeReport.parse "n1 | DOWN x\n")), (1, .ok (ProbeReport.parse "n1 | SUCCESS x\n")),
        (1, .ok (ProbeReport.parse "n1 | DOWN x\n"))] }

def flappingRounds (limits : Limits) : List (Round Rehearsal.Script) :=
  Monitor.rounds PowerSwitch.rehearsed (List.replicate 6 (Rehearsal.scriptedProbe []))
    (Monitor.fresh limits none) flapping

theorem flapping_with_raised_limits :
    let low : Limits := ⟨1, 1⟩
    let high : Limits := ⟨2, 1⟩
    low.failureLimit ≤ high.failureLimit ∧ low.rebootLimit ≤ high.rebootLimit ∧
      (flappingRounds low).map (·.found) = (flappingRounds high).map (·.found) ∧
      (flappingRounds low).map (·.commanded) = [["n1"], [], ["n1"], [], [], ["n1"]] ∧
      (flappingRounds high).map (·.commanded) = [[], ["n1"], [], ["n1"], [], []] ∧
      ∀ host, (((flappingRounds high).take 5).flatMap (·.commanded)).count host ≤
        (((flappingRounds low).take 5).flatMap (·.commanded)).count host := by
  intro low high
  have failure : low.failureLimit ≤ high.failureLimit := by decide
  have reboot : low.rebootLimit ≤ high.rebootLimit := by decide
  have same : (flappingRounds low).map (·.found) = (flappingRounds high).map (·.found) := by
    decide +kernel
  have sooner : (flappingRounds low).map (·.commanded) = [["n1"], [], ["n1"], [], [], ["n1"]] := by
    decide +kernel
  have later : (flappingRounds high).map (·.commanded) = [[], ["n1"], [], ["n1"], [], []] := by
    decide +kernel
  exact ⟨failure, reboot, same, sooner, later,
    (raised_limits_never_command_more low high failure reboot none _ _ _ _ _ _ same 5).2⟩

end TestbedWatchdog
