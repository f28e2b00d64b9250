import Mathlib.Data.List.Nodup
import TestbedWatchdog.Ledger
import TestbedWatchdog.Proofs.Lookup

namespace TestbedWatchdog

theorem bump_toNat (count : UInt32) : (bump count).toNat = min (count.toNat + 1) 0xFFFFFFFF := by
  have bound := count.toNat_lt
  unfold bump
  split
  · rename_i full
    subst full
    rfl
  · rename_i free
    have below : count.toNat ≠ 0xFFFFFFFF := fun full => free (UInt32.toNat_inj.mp full)
    rw [UInt32.toNat_add, UInt32.toNat_one]
    omega

inductive Sighting where
  | down
  | unknown
  | clear
deriving DecidableEq

namespace Phase

def due? (limits : Limits) : Phase → Option EscalationKind
  | failing n => if limits.failureLimit ≤ n then some .initial else none
  | rebooting n => if limits.rebootLimit < n then some (.again n) else none

def checked (limits : Limits) (phase : Phase) : Phase :=
  if (due? limits phase).isSome then rebooting 0 else phase

def next (limits : Limits) (phase : Option Phase) : Sighting → Option Phase
  | .down => some (checked limits (counted phase))
  | .unknown => phase
  | .clear => none

def escalation? (limits : Limits) (phase : Option Phase) : Sighting → Option EscalationKind
  | .down => due? limits (counted phase)
  | .unknown | .clear => none

theorem escalation?_of_not_down (reached : seen ≠ .down) : escalation? limits phase seen = none := by
  cases seen with
  | down => exact absurd rfl reached
  | unknown => rfl
  | clear => rfl

end Phase

namespace Ledger

variable {unreachable unknown : HostSet} {limits : Limits} {phases : HostTable Phase}
  {rule : String → Phase → Option Escalation} {host : String} {phase : Phase}

def sighting (unreachable unknown : HostSet) (host : String) : Sighting :=
  if unreachable.contains host then .down else if unknown.contains host then .unknown else .clear

theorem sighting_down_iff :
    sighting unreachable unknown host = .down ↔ unreachable.contains host = true := by
  unfold sighting
  cases unreachable.contains host <;> cases unknown.contains host <;> simp

-- A name that stands once in the list is changed once, from what the table held at first.
theorem foldl_insert_get? {names : List String} {change : Option α → α} {table : HostTable α}
    (distinct : names.Nodup) :
    (names.foldl (fun table name => table.insert name (change (table.get? name))) table).get? host =
      if host ∈ names then some (change (table.get? host)) else table.get? host := by
  induction names generalizing table with
  | nil => simp
  | cons name rest ih =>
    obtain ⟨once, tail⟩ := List.nodup_cons.mp distinct
    rw [List.foldl_cons, ih tail]
    by_cases same : host = name
    · subst host
      simp [once]
    · simp [same]

theorem count_get? : (count unreachable phases).get? host =
    if unreachable.contains host then some (Phase.counted (phases.get? host)) else phases.get? host := by
  unfold count
  rw [foldl_insert_get? unreachable.hosts_nodup]
  simp only [HostTable.contains_iff_mem_hosts]

theorem kept_get? : (forget unreachable unknown (count unreachable phases)).get? host =
    match sighting unreachable unknown host with
    | .down => some (Phase.counted (phases.get? host))
    | .unknown => phases.get? host
    | .clear => none := by
  unfold forget sighting
  rw [HostTable.get?_filter, count_get?]
  cases unreachable.contains host <;> cases unknown.contains host <;>
    cases phases.get? host <;> simp

theorem restart_get? : (restart rule phases).get? host =
    (phases.get? host).map fun phase => if (rule host phase).isSome then .rebooting 0 else phase :=
  HostTable.get?_map

def Named (rule : String → Phase → Option Escalation) : Prop :=
  ∀ host phase escalation, rule host phase = some escalation → escalation.host = host

theorem mem_due (named : Named rule) : ⟨host, kind⟩ ∈ due rule phases ↔
    ∃ phase, phases.get? host = some phase ∧ rule host phase = some ⟨host, kind⟩ := by
  simp only [due, List.mem_filterMap, HostTable.get?_eq_some_iff]
  constructor
  · intro entry
    obtain ⟨⟨name, phase⟩, present, found⟩ := entry
    obtain rfl : host = name := named name phase _ found
    exact ⟨phase, present, found⟩
  · intro held
    obtain ⟨phase, present, found⟩ := held
    exact ⟨(host, phase), present, found⟩

theorem due_ascending (named : Named rule) : (due rule phases).Pairwise (·.host < ·.host) := by
  refine phases.ascending.filterMap _ fun earlier later before first one second two => ?_
  rw [named _ _ _ one, named _ _ _ two]
  exact before

theorem initial?_eq_some_iff : initial? unreachable limits host phase = some escalation ↔
    unreachable.contains host = true ∧ escalation = ⟨host, .initial⟩ ∧
      ∃ n, phase = .failing n ∧ limits.failureLimit ≤ n := by
  cases phase with
  | failing n =>
    simp only [initial?, Option.ite_none_right_eq_some, Bool.and_eq_true, decide_eq_true_eq,
      Option.some.injEq, Phase.failing.injEq, exists_eq_left']
    exact ⟨fun ⟨⟨down, reached⟩, same⟩ => ⟨down, same.symm, reached⟩,
      fun ⟨down, same, reached⟩ => ⟨⟨down, reached⟩, same.symm⟩⟩
  | rebooting n => simp [initial?]

theorem again?_eq_some_iff : again? unreachable limits host phase = some escalation ↔
    unreachable.contains host = true ∧
      ∃ n, phase = .rebooting n ∧ escalation = ⟨host, .again n⟩ ∧ limits.rebootLimit < n := by
  cases phase with
  | failing n => simp [again?]
  | rebooting n =>
    simp only [again?, Option.ite_none_right_eq_some, Bool.and_eq_true, decide_eq_true_eq,
      Option.some.injEq, Phase.rebooting.injEq, exists_eq_left']
    exact ⟨fun ⟨⟨down, passed⟩, same⟩ => ⟨down, same.symm, passed⟩,
      fun ⟨down, same, passed⟩ => ⟨⟨down, passed⟩, same.symm⟩⟩

theorem initial?_named : Named (initial? unreachable limits) := by
  intro host phase escalation found
  obtain ⟨_, rfl, _⟩ := initial?_eq_some_iff.mp found
  rfl

theorem again?_named : Named (again? unreachable limits) := by
  intro host phase escalation found
  obtain ⟨_, _, _, rfl, _⟩ := again?_eq_some_iff.mp found
  rfl

theorem no_rules (reached : unreachable.contains host = false) (limits : Limits) (phase : Phase) :
    initial? unreachable limits host phase = none ∧ again? unreachable limits host phase = none := by
  cases phase <;> simp [initial?, again?, reached]

theorem both_rules (down : unreachable.contains host = true) (limits : Limits) (kind : EscalationKind)
    (phase : Phase) :
    let started := if (initial? unreachable limits host phase).isSome then .rebooting 0 else phase
    (if (again? unreachable limits host started).isSome then .rebooting 0 else started) =
        Phase.checked limits phase ∧
      ((initial? unreachable limits host phase = some ⟨host, kind⟩ ∨
        again? unreachable limits host started = some ⟨host, kind⟩) ↔
        Phase.due? limits phase = some kind) := by
  cases phase with
  | failing n =>
    by_cases reached : limits.failureLimit ≤ n <;>
      simp [initial?, again?, Phase.checked, Phase.due?, down, reached]
  | rebooting n =>
    by_cases passed : limits.rebootLimit < n <;>
      simp [initial?, again?, Phase.checked, Phase.due?, down, passed]

theorem observe_get? (ledger : Ledger) :
    (ledger.observe unreachable unknown limits).1.phases.get? host =
      Phase.next limits (ledger.phases.get? host) (sighting unreachable unknown host) := by
  unfold observe
  simp only [restart_get?, kept_get?]
  by_cases down : unreachable.contains host = true
  · rw [sighting_down_iff.mpr down]
    have both := (both_rules down limits .initial (Phase.counted (ledger.phases.get? host))).1
    simpa [Phase.next] using both
  · have quiet := no_rules (Bool.not_eq_true _ ▸ down) limits
    cases seen : sighting unreachable unknown host with
    | down => exact absurd (sighting_down_iff.mp seen) down
    | unknown => cases ledger.phases.get? host <;> simp [Phase.next, quiet]
    | clear => rfl

theorem mem_observe (ledger : Ledger) :
    ⟨host, kind⟩ ∈ (ledger.observe unreachable unknown limits).2 ↔
      Phase.escalation? limits (ledger.phases.get? host) (sighting unreachable unknown host) =
        some kind := by
  unfold observe
  simp only [List.mem_append, mem_due initial?_named, mem_due again?_named, restart_get?, kept_get?]
  by_cases down : unreachable.contains host = true
  · rw [sighting_down_iff.mpr down]
    have both := (both_rules down limits kind (Phase.counted (ledger.phases.get? host))).2
    simpa [Phase.escalation?] using both
  · have quiet := no_rules (Bool.not_eq_true _ ▸ down) limits
    cases seen : sighting unreachable unknown host with
    | down => exact absurd (sighting_down_iff.mp seen) down
    | unknown => simp [Phase.escalation?, quiet]
    | clear => simp [Phase.escalation?]

-- What the first rule has started is a fresh wait, which the second rule never finds due.
theorem due_disjoint (one : ⟨host, kind⟩ ∈ due (initial? unreachable limits) phases)
    (two : ⟨host, other⟩ ∈ due (again? unreachable limits)
      (restart (initial? unreachable limits) phases)) : False := by
  obtain ⟨phase, held, first⟩ := (mem_due initial?_named).mp one
  obtain ⟨later, kept, second⟩ := (mem_due again?_named).mp two
  obtain ⟨_, n, rfl, _, passed⟩ := again?_eq_some_iff.mp second
  have fresh : Phase.rebooting 0 = .rebooting n := by
    simpa [restart_get?, held, first] using kept
  cases fresh
  exact absurd passed (by simp)

theorem observe_nodup (ledger : Ledger) :
    ((ledger.observe unreachable unknown limits).2.map (·.host)).Nodup := by
  unfold observe
  rw [List.map_append, List.nodup_append]
  refine ⟨?_, ?_, ?_⟩
  · exact (due_ascending initial?_named).map _ fun _ _ => String.ne_of_lt
  · exact (due_ascending again?_named).map _ fun _ _ => String.ne_of_lt
  · intro host one name two same
    obtain ⟨⟨host, kind⟩, first, rfl⟩ := List.mem_map.mp one
    obtain ⟨⟨name, other⟩, second, rfl⟩ := List.mem_map.mp two
    cases same
    exact due_disjoint first second

end Ledger

end TestbedWatchdog
