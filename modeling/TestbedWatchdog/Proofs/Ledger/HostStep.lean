import TestbedWatchdog.Proofs.Ledger.Observation
import TestbedWatchdog.Proofs.Text.ByteOrder

namespace TestbedWatchdog

-- So many failed checks, and no power cycle yet. A host that is not tracked has failed none.
inductive Phase.FailedChecks : Option Phase → UInt32 → Prop
  | untracked : FailedChecks none 0
  | failing : FailedChecks (some (.failing n)) n

-- One more check; the counter stands still at its greatest value.
def IsBumped (count bumped : UInt32) : Prop := bumped.toNat = min (count.toNat + 1) 0xFFFFFFFF

theorem isBumped_iff {count bumped : UInt32} : IsBumped count bumped ↔ bumped = bump count := by
  unfold IsBumped
  rw [← bump_toNat, UInt32.toNat_inj]

-- Independent rules for one host: what is seen of it, its phase before and after, and its power cycle.
inductive HostStep (limits : Limits) :
    Sighting → Option Phase → Option Phase → Option EscalationKind → Prop
  | counted (failed : Phase.FailedChecks before f) (more : IsBumped f n)
      (early : n < limits.failureLimit) : HostStep limits .down before (some (.failing n)) none
  | rebooted (failed : Phase.FailedChecks before f) (more : IsBumped f n)
      (reached : limits.failureLimit ≤ n) :
      HostStep limits .down before (some (.rebooting 0)) (some .initial)
  | waited (more : IsBumped w n) (patient : n ≤ limits.rebootLimit) :
      HostStep limits .down (some (.rebooting w)) (some (.rebooting n)) none
  | rebootedAgain (more : IsBumped w n) (passed : limits.rebootLimit < n) :
      HostStep limits .down (some (.rebooting w)) (some (.rebooting 0)) (some (.again n))
  | unknown : HostStep limits .unknown before before none
  | clear : HostStep limits .clear before none none

namespace Phase

variable {before : Option Phase} {f : UInt32}

theorem counted_of_failedChecks (failed : FailedChecks before f) : counted before = failing (bump f) := by
  cases failed with
  | untracked => rfl
  | failing => rfl

theorem failedChecks_or_rebooting (before : Option Phase) :
    (∃ f, FailedChecks before f) ∨ ∃ w, before = some (rebooting w) := by
  cases before with
  | none => exact .inl ⟨0, .untracked⟩
  | some phase =>
    cases phase with
    | failing n => exact .inl ⟨n, .failing⟩
    | rebooting w => exact .inr ⟨w, rfl⟩

end Phase

namespace HostStep

variable {limits : Limits} {seen : Sighting} {before after : Option Phase} {kind? : Option EscalationKind}

theorem complete (step : HostStep limits seen before after kind?) :
    after = Phase.next limits before seen ∧ kind? = Phase.escalation? limits before seen := by
  cases step with
  | counted failed more early =>
    obtain rfl := isBumped_iff.mp more
    have late := UInt32.not_le.mpr early
    simp [Phase.next, Phase.escalation?, Phase.checked, Phase.due?, Phase.counted_of_failedChecks failed,
      late]
  | rebooted failed more reached =>
    obtain rfl := isBumped_iff.mp more
    simp [Phase.next, Phase.escalation?, Phase.checked, Phase.due?, Phase.counted_of_failedChecks failed,
      reached]
  | waited more patient =>
    obtain rfl := isBumped_iff.mp more
    have early := UInt32.not_lt.mpr patient
    simp [Phase.next, Phase.escalation?, Phase.checked, Phase.due?, Phase.counted, early]
  | rebootedAgain more passed =>
    obtain rfl := isBumped_iff.mp more
    simp [Phase.next, Phase.escalation?, Phase.checked, Phase.due?, Phase.counted, passed]
  | unknown => exact ⟨rfl, rfl⟩
  | clear => exact ⟨rfl, rfl⟩

theorem total (limits : Limits) (seen : Sighting) (before : Option Phase) :
    ∃ after kind?, HostStep limits seen before after kind? := by
  cases seen with
  | unknown => exact ⟨_, _, .unknown⟩
  | clear => exact ⟨_, _, .clear⟩
  | down =>
    rcases Phase.failedChecks_or_rebooting before with ⟨f, failed⟩ | ⟨w, rfl⟩
    · have more : IsBumped f (bump f) := isBumped_iff.mpr rfl
      by_cases reached : limits.failureLimit ≤ bump f
      · exact ⟨_, _, .rebooted failed more reached⟩
      · exact ⟨_, _, .counted failed more (UInt32.not_le.mp reached)⟩
    · have more : IsBumped w (bump w) := isBumped_iff.mpr rfl
      by_cases passed : limits.rebootLimit < bump w
      · exact ⟨_, _, .rebootedAgain more passed⟩
      · exact ⟨_, _, .waited more (UInt32.not_lt.mp passed)⟩

theorem sound (limits : Limits) (seen : Sighting) (before : Option Phase) :
    HostStep limits seen before (Phase.next limits before seen) (Phase.escalation? limits before seen) := by
  obtain ⟨after, kind?, step⟩ := total limits seen before
  obtain ⟨rfl, rfl⟩ := complete step
  exact step

theorem unique (one : HostStep limits seen before after kind?)
    (two : HostStep limits seen before other other?) : other = after ∧ other? = kind? := by
  obtain ⟨rfl, rfl⟩ := complete one
  exact complete two

end HostStep

namespace Ledger

variable {unreachable unknown : HostSet} {limits : Limits} {phases : HostTable Phase}

theorem observe_hostStep (ledger : Ledger) (unreachable unknown : HostSet) (limits : Limits)
    (host : String) :
    let observed := ledger.observe unreachable unknown limits
    ∃ kind?, HostStep limits (sighting unreachable unknown host) (ledger.phases.get? host)
        (observed.1.phases.get? host) kind? ∧
      ∀ kind, ⟨host, kind⟩ ∈ observed.2 ↔ kind? = some kind := by
  intro observed
  refine ⟨Phase.escalation? limits (ledger.phases.get? host) (sighting unreachable unknown host), ?_, ?_⟩
  · rw [observe_get?]
    exact HostStep.sound limits _ _
  · intro kind
    exact mem_observe ledger

theorem kind_of_initial? (due : escalation ∈ Ledger.due (initial? unreachable limits) phases) :
    escalation.kind = .initial := by
  obtain ⟨_, _, first⟩ := (mem_due initial?_named).mp due
  obtain ⟨_, same, _⟩ := initial?_eq_some_iff.mp first
  exact congrArg Escalation.kind same

theorem kind_of_again? (due : escalation ∈ Ledger.due (again? unreachable limits) phases) :
    ∃ n, escalation.kind = .again n := by
  obtain ⟨_, _, next⟩ := (mem_due again?_named).mp due
  obtain ⟨_, n, _, same, _⟩ := again?_eq_some_iff.mp next
  exact ⟨n, congrArg Escalation.kind same⟩

theorem due_bytes {rule : String → Phase → Option Escalation} (named : Named rule) :
    ((due rule phases).map fun escalation => Text.bytes escalation.host).Pairwise (· < ·) :=
  (due_ascending named).map _ fun _ _ => Text.bytes_lt_iff.mpr

-- All hosts take their steps at once, and none of them looks at another.
theorem observe_steps_each_host (ledger : Ledger) (unreachable unknown : HostSet) (limits : Limits) :
    let observed := ledger.observe unreachable unknown limits
    (∀ host, ∃ kind?,
      HostStep limits (sighting unreachable unknown host) (ledger.phases.get? host)
        (observed.1.phases.get? host) kind? ∧
      ∀ kind, ⟨host, kind⟩ ∈ observed.2 ↔ kind? = some kind) ∧
    (∃ first again, observed.2 = first ++ again ∧
      (∀ escalation ∈ first, escalation.kind = .initial) ∧
      (first.map fun escalation => Text.bytes escalation.host).Pairwise (· < ·) ∧
      (∀ escalation ∈ again, ∃ n, escalation.kind = .again n) ∧
      (again.map fun escalation => Text.bytes escalation.host).Pairwise (· < ·)) ∧
    (observed.2.map (·.host)).Nodup ∧
    ∀ (other : Ledger) (down silent : HostSet) (host : String),
      other.phases.get? host = ledger.phases.get? host →
      sighting down silent host = sighting unreachable unknown host →
      let elsewhere := other.observe down silent limits
      elsewhere.1.phases.get? host = observed.1.phases.get? host ∧
        ∀ kind, ⟨host, kind⟩ ∈ elsewhere.2 ↔ ⟨host, kind⟩ ∈ observed.2 := by
  intro observed
  refine ⟨observe_hostStep ledger unreachable unknown limits, ?_, observe_nodup ledger, ?_⟩
  · exact ⟨_, _, rfl, fun _ => kind_of_initial?, due_bytes initial?_named, fun _ => kind_of_again?,
      due_bytes again?_named⟩
  · intro other down silent host sameBefore sameSighting elsewhere
    obtain ⟨_, here, listed⟩ := observe_hostStep ledger unreachable unknown limits host
    obtain ⟨_, there, alsoListed⟩ := observe_hostStep other down silent limits host
    rw [sameBefore, sameSighting] at there
    obtain ⟨sameAfter, rfl⟩ := HostStep.unique here there
    refine ⟨sameAfter, ?_⟩
    intro kind
    rw [alsoListed, listed]

-- With no patience for a reboot a host is power cycled at each failed check, once, by itself as among others.
theorem steps_without_patience :
    let limits : Limits := ⟨3, 0⟩
    let among : Ledger := ⟨((HostTable.empty.insert "n1" (.rebooting 0)).insert "n2" (.failing 7)).insert
      "n3" (.failing 2)⟩
    let alone : Ledger := ⟨HostTable.empty.insert "n1" (.rebooting 0)⟩
    let down := HostSet.ofList ["n1", "n3"]
    let silent := HostSet.ofList ["n1", "n2"]
    let one := HostSet.ofList ["n1"]
    alone.phases.get? "n1" = among.phases.get? "n1" ∧
      sighting one HostTable.empty "n1" = sighting down silent "n1" ∧
      (among.observe down silent limits).2 = [⟨"n3", .initial⟩, ⟨"n1", .again 1⟩] ∧
      (alone.observe one HostTable.empty limits).1.phases.get? "n1" = some (.rebooting 0) ∧
      ⟨"n1", .again 1⟩ ∈ (alone.observe one HostTable.empty limits).2 := by
  intro limits among alone down silent one
  have sameBefore : alone.phases.get? "n1" = among.phases.get? "n1" := by decide +kernel
  have sameSighting : sighting one HostTable.empty "n1" = sighting down silent "n1" := by decide +kernel
  have listed : (among.observe down silent limits).2 = [⟨"n3", .initial⟩, ⟨"n1", .again 1⟩] := by
    decide +kernel
  have waiting : (among.observe down silent limits).1.phases.get? "n1" = some (.rebooting 0) := by
    decide +kernel
  obtain ⟨_, _, _, apart⟩ := observe_steps_each_host among down silent limits
  obtain ⟨sameAfter, sameKinds⟩ := apart alone one HostTable.empty "n1" sameBefore sameSighting
  refine ⟨sameBefore, sameSighting, listed, sameAfter.trans waiting, ?_⟩
  rw [sameKinds, listed]
  exact List.mem_cons_of_mem _ List.mem_cons_self

end Ledger

end TestbedWatchdog
