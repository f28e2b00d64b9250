import TestbedWatchdog.Proofs.Ledger.HostStep
import TestbedWatchdog.Proofs.Ledger.Records
import TestbedWatchdog.Proofs.Ledger.Tables

namespace TestbedWatchdog

structure Records.Tell (records : Records) (ledger : Ledger) : Prop where
  named : records.Named
  hosts : records.hosts = ledger.phases.hosts
  phase : ∀ host, (records.get? host).map (·.phase) = ledger.phases.get? host
  states : records.states = ledger.states
  size : records.size = ledger.size
  isEmpty : records.isEmpty = ledger.isEmpty
  failing : records.failing = ledger.failing
  rebooting : records.rebooting = ledger.rebooting

structure Ledger.InOrder (ledger : Ledger) : Prop where
  tracked : ledger.phases.Lists
  counting : ledger.failing.Lists
  waiting : ledger.rebooting.Lists
  -- a host is not entered before its first failed check
  failed : ∀ host n, ledger.phases.get? host = some (.failing n) → 1 ≤ n
  listed : ∀ state, state ∈ ledger.states ↔ ledger.phases.get? state.host = some state.phase
  ascending : (ledger.states.map fun state => Text.bytes state.host).Pairwise (· < ·)
  failing : ∀ host n, ledger.failing.get? host = some n ↔ ledger.phases.get? host = some (.failing n)
  rebooting : ∀ host n, ledger.rebooting.get? host = some n ↔ ledger.phases.get? host = some (.rebooting n)
  apart : ledger.failing.hosts.Disjoint ledger.rebooting.hosts
  together : ∀ host, host ∈ ledger.failing.hosts ∨ host ∈ ledger.rebooting.hosts ↔ host ∈ ledger.phases.hosts
  size : ledger.size = ledger.phases.hosts.length
  sizes : ledger.size = ledger.failing.size + ledger.rebooting.size
  isEmpty : ledger.isEmpty = true ↔ ledger.phases.hosts = []
  bothEmpty : ledger.isEmpty = true ↔ ledger.failing.isEmpty = true ∧ ledger.rebooting.isEmpty = true

def Phase.Within (limits : Limits) : Option Phase → Prop
  | none => False
  | some (failing n) => n < limits.failureLimit
  | some (rebooting n) => n ≤ limits.rebootLimit

structure Ledger.Settled (ledger : Ledger) (observation : Observation) : Prop where
  seen : ∀ host ∈ ledger.phases.hosts,
    observation.unreachable.contains host = true ∨ observation.unknown.contains host = true
  tracked : ∀ host, observation.unreachable.contains host = true → host ∈ ledger.phases.hosts
  within : ∀ host, observation.unreachable.contains host = true →
    Phase.Within observation.limits (ledger.phases.get? host)

theorem Records.labelled_tell (ledger : Ledger) : (labelled ledger.phases).Tell ledger where
  named := labelled_named ledger.phases
  hosts := List.map_map
  phase host := by
    rw [labelled_get?]
    cases ledger.phases.get? host <;> rfl
  states := states_labelled ledger
  size := List.length_map _
  isEmpty := List.isEmpty_map
  failing := collect_labelled _
  rebooting := collect_labelled _

-- Whatever came of a failed check is below the thresholds, a fresh wait among it.
theorem HostStep.within (step : HostStep limits .down before after kind?) : Phase.Within limits after := by
  cases step with
  | counted failed more early => exact early
  | rebooted failed more reached => exact UInt32.zero_le
  | waited more patient => exact patient
  | rebootedAgain more passed => exact UInt32.zero_le

namespace Ledger

variable {host : String} {n : UInt32}

theorem sighting_ne_clear_iff {unreachable unknown : HostSet} :
    sighting unreachable unknown host ≠ .clear ↔
      unreachable.contains host = true ∨ unknown.contains host = true := by
  unfold sighting
  cases unreachable.contains host <;> cases unknown.contains host <;> simp

theorem one_le_failures (observations : List Observation)
    (held : (empty.after observations).phases.get? host = some (.failing n)) : 1 ≤ n := by
  have remembered := remembers_history observations host
  obtain ⟨failed, _, count⟩ := (Phase.eq_failing_of_remembers remembered n).mp held
  rw [UInt32.le_iff_toNat_le, count, UInt32.toNat_one]
  omega

theorem mem_states {ledger : Ledger} {state : HostState} :
    state ∈ ledger.states ↔ ledger.phases.get? state.host = some state.phase := by
  rw [states, List.mem_map, HostTable.get?_eq_some_iff]
  constructor
  · intro listed
    obtain ⟨entry, present, rfl⟩ := listed
    exact present
  · intro present
    exact ⟨_, present, rfl⟩

theorem states_ascending (ledger : Ledger) :
    (ledger.states.map fun state => Text.bytes state.host).Pairwise (· < ·) := by
  rw [states, List.map_map]
  exact ledger.phases.ascending.map _ fun _ _ before => Text.bytes_lt_iff.mpr before

theorem inOrder_after (observations : List Observation) : (empty.after observations).InOrder where
  tracked := HostTable.lists _
  counting := HostTable.lists _
  waiting := HostTable.lists _
  failed _ _ held := one_le_failures observations held
  listed _ := mem_states
  ascending := states_ascending _
  failing _ := failing_get?
  rebooting _ := rebooting_get?
  apart := tables_disjoint _
  together _ := by rw [← List.mem_append, mem_tables]
  size := (HostTable.lists _).size
  sizes := size_eq_add _
  isEmpty := (HostTable.lists _).isEmpty
  bothEmpty := isEmpty_iff _

theorem settled_shownTo (ledger : Ledger) (observation : Observation) :
    (observation.shownTo ledger).1.Settled observation := by
  have within : ∀ host, observation.unreachable.contains host = true →
      Phase.Within observation.limits ((observation.shownTo ledger).1.phases.get? host) := by
    intro host failed
    have down : observation.sighting host = .down := sighting_down_iff.mpr failed
    rw [shownTo_get?, down]
    exact (HostStep.sound observation.limits .down (ledger.phases.get? host)).within
  refine ⟨?_, ?_, within⟩
  · intro host tracked
    obtain ⟨phase, held⟩ := HostTable.mem_hosts_iff.mp tracked
    refine sighting_ne_clear_iff.mp fun clear => ?_
    rw [shownTo_get?, Observation.sighting, clear] at held
    cases held
  · intro host failed
    have here := within host failed
    refine HostTable.mem_hosts_iff.mpr ?_
    cases held : (observation.shownTo ledger).1.phases.get? host with
    | none =>
      rw [held] at here
      exact here.elim
    | some phase => exact ⟨phase, rfl⟩

theorem kept_in_order (observations : List Observation) :
    let ledger := empty.after observations
    (Records.empty.after observations).Tell ledger ∧ ledger.InOrder ∧
      ∀ observation : Observation, (observation.shownTo ledger).1.Settled observation := by
  intro ledger
  refine ⟨?_, inOrder_after observations, settled_shownTo ledger⟩
  have same : Records.empty.after observations = Records.labelled ledger.phases :=
    Records.after_labelled empty observations
  rw [same]
  exact Records.labelled_tell ledger

end Ledger

end TestbedWatchdog
