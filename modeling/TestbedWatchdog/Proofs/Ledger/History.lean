import Mathlib.Data.List.Induction
import TestbedWatchdog.Proofs.Ledger.Observation

namespace TestbedWatchdog

structure Observation where
  unreachable : HostSet
  unknown : HostSet
  limits : Limits

structure Answered where
  observation : Observation
  escalations : List Escalation

namespace Observation

def sighting (observation : Observation) (host : String) : Sighting :=
  Ledger.sighting observation.unreachable observation.unknown host

def shownTo (observation : Observation) (ledger : Ledger) : Ledger × List Escalation :=
  ledger.observe observation.unreachable observation.unknown observation.limits

end Observation

namespace Ledger

def after (ledger : Ledger) (observations : List Observation) : Ledger :=
  observations.foldl (fun ledger observation => (observation.shownTo ledger).1) ledger

def history : Ledger → List Observation → List Answered
  | _, [] => []
  | ledger, observation :: later =>
    ⟨observation, (observation.shownTo ledger).2⟩ :: history (observation.shownTo ledger).1 later

variable {ledger : Ledger} {observation : Observation} {observations : List Observation}

@[simp] theorem history_observations :
    (ledger.history observations).map (·.observation) = observations := by
  induction observations generalizing ledger with
  | nil => rfl
  | cons observation later ih => simp [history, ih]

theorem after_append :
    ledger.after (observations ++ [observation]) = (observation.shownTo (ledger.after observations)).1 := by
  simp [after]

theorem history_append : ledger.history (observations ++ [observation]) =
    ledger.history observations ++ [⟨observation, (observation.shownTo (ledger.after observations)).2⟩] := by
  induction observations generalizing ledger with
  | nil => rfl
  | cons first later ih => simp [history, ih, after]

theorem history_getElem? (present : (ledger.history observations)[i]? = some answered) :
    (ledger.history observations).take i = ledger.history (observations.take i) ∧
      answered.escalations =
        (answered.observation.shownTo (ledger.after (observations.take i))).2 := by
  induction observations generalizing ledger i with
  | nil => cases present
  | cons first later ih =>
    cases i with
    | zero =>
      obtain rfl := Option.some.inj present
      exact ⟨rfl, rfl⟩
    | succ i =>
      obtain ⟨past, same⟩ := ih present
      exact ⟨congrArg (List.cons _) past, same⟩

end Ledger

namespace Answered

variable {host : String} {answers : List Answered} {answered : Answered}

def sighting (answered : Answered) (host : String) : Sighting := answered.observation.sighting host

def escalates (answered : Answered) (host : String) : Bool :=
  answered.escalations.any fun escalation => escalation.host = host

-- The answers since the host was last clear, the newest first.
def spell (host : String) (answers : List Answered) : List Answered :=
  answers.reverse.takeWhile fun answered => answered.sighting host ≠ .clear

def failures (host : String) (answers : List Answered) : Nat :=
  (spell host answers).countP fun answered => answered.sighting host = .down

def escalated (host : String) (answers : List Answered) : Bool :=
  (spell host answers).any fun answered => answered.escalates host

def waited (host : String) (answers : List Answered) : Nat :=
  ((spell host answers).takeWhile fun answered => !answered.escalates host).countP
    fun answered => answered.sighting host = .down

theorem spell_append : spell host (answers ++ [answered]) =
    if answered.sighting host = .clear then [] else answered :: spell host answers := by
  unfold spell
  by_cases clear : answered.sighting host = .clear <;> simp [clear]

theorem failures_append : failures host (answers ++ [answered]) =
    match answered.sighting host with
    | .down => failures host answers + 1
    | .unknown => failures host answers
    | .clear => 0 := by
  unfold failures
  rw [spell_append]
  cases seen : answered.sighting host <;> simp [seen]

theorem escalated_append : escalated host (answers ++ [answered]) =
    match answered.sighting host with
    | .down | .unknown => answered.escalates host || escalated host answers
    | .clear => false := by
  unfold escalated
  rw [spell_append]
  cases seen : answered.sighting host <;> simp

theorem waited_append : waited host (answers ++ [answered]) =
    match answered.sighting host with
    | .down => if answered.escalates host then 0 else waited host answers + 1
    | .unknown => if answered.escalates host then 0 else waited host answers
    | .clear => 0 := by
  unfold waited
  rw [spell_append]
  cases seen : answered.sighting host <;> cases asked : answered.escalates host <;> simp [seen, asked]

end Answered

namespace Phase

-- A phase that goes with so many failed checks, whether there was an escalation among them, and so many
-- failed checks behind it.
def Remembers (failures : Nat) (escalated : Bool) (waited : Nat) : Option Phase → Prop
  | none => failures = 0 ∧ escalated = false
  | some (failing n) => n.toNat = min failures 0xFFFFFFFF ∧ 0 < failures ∧ escalated = false
  | some (rebooting n) => n.toNat = min waited 0xFFFFFFFF ∧ 0 < failures ∧ escalated = true

variable {limits : Limits} {failures waited : Nat} {escalated : Bool} {phase : Option Phase}

theorem counted_of_remembers (held : Remembers failures escalated waited phase) :
    (escalated = false ∧ ∃ n, counted phase = failing n ∧ n.toNat = min (failures + 1) 0xFFFFFFFF) ∨
      (escalated = true ∧ ∃ n, counted phase = rebooting n ∧ n.toNat = min (waited + 1) 0xFFFFFFFF) := by
  match phase, held with
  | none, ⟨nothing, fresh⟩ => exact .inl ⟨fresh, 1, rfl, by rw [nothing]; rfl⟩
  | some (failing n), ⟨count, _, fresh⟩ =>
    refine .inl ⟨fresh, bump n, rfl, ?_⟩
    rw [bump_toNat]
    omega
  | some (rebooting n), ⟨count, _, past⟩ =>
    refine .inr ⟨past, bump n, rfl, ?_⟩
    rw [bump_toNat]
    omega

theorem initial_of_remembers (held : Remembers failures escalated waited phase) :
    escalation? limits phase .down = some .initial ↔
      escalated = false ∧ limits.failureLimit.toNat ≤ min (failures + 1) 0xFFFFFFFF := by
  obtain ⟨fresh, n, same, count⟩ | ⟨past, n, same, count⟩ := counted_of_remembers held
  · simp only [escalation?, same, due?, UInt32.le_iff_toNat_le, count, fresh, true_and]
    simp
  · simp [escalation?, same, due?, past]

theorem again_of_remembers (held : Remembers failures escalated waited phase) (checks : UInt32) :
    escalation? limits phase .down = some (.again checks) ↔
      escalated = true ∧ checks.toNat = min (waited + 1) 0xFFFFFFFF ∧
        limits.rebootLimit.toNat < checks.toNat := by
  obtain ⟨fresh, n, same, count⟩ | ⟨past, n, same, count⟩ := counted_of_remembers held
  · simp [escalation?, same, due?, fresh]
  · simp only [escalation?, same, due?, UInt32.lt_iff_toNat_lt, Option.ite_none_right_eq_some,
      Option.some.injEq, EscalationKind.again.injEq, past, true_and, ← count, UInt32.toNat_inj]
    constructor
    · intro due
      obtain ⟨passed, rfl⟩ := due
      exact ⟨rfl, passed⟩
    · intro due
      obtain ⟨rfl, passed⟩ := due
      exact ⟨passed, rfl⟩

theorem remembers_down (held : Remembers failures escalated waited phase) :
    let due := (escalation? limits phase .down).isSome
    Remembers (failures + 1) (due || escalated) (if due then 0 else waited + 1)
      (next limits phase .down) := by
  intro due
  obtain ⟨fresh, n, same, count⟩ | ⟨past, n, same, count⟩ := counted_of_remembers held
  · by_cases reached : limits.failureLimit ≤ n <;>
      simp [due, escalation?, next, checked, same, due?, reached, Remembers, count, fresh]
  · by_cases passed : limits.rebootLimit < n <;>
      simp [due, escalation?, next, checked, same, due?, passed, Remembers, count, past]

theorem eq_none_of_remembers (held : Remembers failures escalated waited phase) :
    phase = none ↔ failures = 0 := by
  match phase, held with
  | none, ⟨nothing, _⟩ => simp [nothing]
  | some (failing n), ⟨_, counted, _⟩ => simp; omega
  | some (rebooting n), ⟨_, counted, _⟩ => simp; omega

theorem eq_failing_of_remembers (held : Remembers failures escalated waited phase) (n : UInt32) :
    phase = some (failing n) ↔
      0 < failures ∧ escalated = false ∧ n.toNat = min failures 0xFFFFFFFF := by
  match phase, held with
  | none, ⟨nothing, _⟩ => simp [nothing]
  | some (failing m), ⟨count, counted, fresh⟩ =>
    simp [fresh, counted, ← count, UInt32.toNat_inj, eq_comm]
  | some (rebooting m), ⟨_, _, past⟩ => simp [past]

theorem eq_rebooting_of_remembers (held : Remembers failures escalated waited phase) (n : UInt32) :
    phase = some (rebooting n) ↔ escalated = true ∧ n.toNat = min waited 0xFFFFFFFF := by
  match phase, held with
  | none, ⟨_, fresh⟩ => simp [fresh]
  | some (failing m), ⟨_, _, fresh⟩ => simp [fresh]
  | some (rebooting m), ⟨count, _, past⟩ => simp [past, ← count, UInt32.toNat_inj, eq_comm]

end Phase

namespace Ledger

variable {ledger : Ledger} {observation : Observation} {host : String}

theorem shownTo_get? : (observation.shownTo ledger).1.phases.get? host =
    Phase.next observation.limits (ledger.phases.get? host) (observation.sighting host) :=
  observe_get? ledger

theorem mem_shownTo : ⟨host, kind⟩ ∈ (observation.shownTo ledger).2 ↔
    Phase.escalation? observation.limits (ledger.phases.get? host) (observation.sighting host) =
      some kind :=
  mem_observe ledger

theorem shownTo_escalates :
    Answered.escalates ⟨observation, (observation.shownTo ledger).2⟩ host =
      (Phase.escalation? observation.limits (ledger.phases.get? host)
        (observation.sighting host)).isSome := by
  rw [Bool.eq_iff_iff]
  simp only [Answered.escalates, List.any_eq_true, decide_eq_true_eq, Option.isSome_iff_exists,
    ← mem_shownTo]
  constructor
  · intro found
    obtain ⟨⟨host, kind⟩, present, rfl⟩ := found
    exact ⟨kind, present⟩
  · intro found
    obtain ⟨kind, present⟩ := found
    exact ⟨⟨host, kind⟩, present, rfl⟩

theorem remembers_history (observations : List Observation) (host : String) :
    Phase.Remembers (Answered.failures host (empty.history observations))
      (Answered.escalated host (empty.history observations))
      (Answered.waited host (empty.history observations))
      ((empty.after observations).phases.get? host) := by
  induction observations using List.reverseRecOn with
  | nil => exact ⟨rfl, rfl⟩
  | append_singleton earlier observation ih =>
    rw [after_append, shownTo_get?, history_append, Answered.failures_append, Answered.escalated_append,
      Answered.waited_append, shownTo_escalates]
    simp only [Answered.sighting]
    cases observation.sighting host with
    | down => exact Phase.remembers_down ih
    | unknown => exact ih
    | clear => exact ⟨rfl, rfl⟩

end Ledger

theorem counters_are_exact_histories (observations : List Observation) (host : String) :
    let answers := Ledger.empty.history observations
    let phase := (Ledger.empty.after observations).phases.get? host
    let failures := Answered.failures host answers
    let escalated := Answered.escalated host answers
    let waited := Answered.waited host answers
    (phase = none ↔ failures = 0) ∧
    (∀ n, phase = some (.failing n) ↔
      0 < failures ∧ escalated = false ∧ n.toNat = min failures 0xFFFFFFFF) ∧
    (∀ n, phase = some (.rebooting n) ↔ escalated = true ∧ n.toNat = min waited 0xFFFFFFFF) ∧
    answers.map (·.observation) = observations ∧
    ∀ i : Fin answers.length,
      let answered := answers.get i
      let past := answers.take i
      let now := answers.take (i + 1)
      let limits := answered.observation.limits
      let isDown := answered.observation.unreachable.contains host = true
      (⟨host, .initial⟩ ∈ answered.escalations ↔ isDown ∧ Answered.escalated host past = false ∧
        limits.failureLimit.toNat ≤ min (Answered.failures host now) 0xFFFFFFFF) ∧
      ∀ checks, ⟨host, .again checks⟩ ∈ answered.escalations ↔
        isDown ∧ Answered.escalated host past = true ∧
          checks.toNat = min (Answered.waited host past + 1) 0xFFFFFFFF ∧
          limits.rebootLimit.toNat < checks.toNat := by
  intro answers phase failures escalated waited
  have held := Ledger.remembers_history observations host
  refine ⟨Phase.eq_none_of_remembers held, Phase.eq_failing_of_remembers held,
    Phase.eq_rebooting_of_remembers held, Ledger.history_observations, ?_⟩
  intro i answered past now limits isDown
  have present : answers[i.val]? = some answered := List.getElem?_eq_getElem i.isLt
  obtain ⟨before, returned⟩ := Ledger.history_getElem? present
  have remembered := Ledger.remembers_history (observations.take i) host
  rw [← before] at remembered
  rw [returned]
  simp only [Ledger.mem_shownTo]
  by_cases down : isDown
  · have seen : answered.observation.sighting host = .down := Ledger.sighting_down_iff.mpr down
    have step : Answered.failures host now = Answered.failures host past + 1 := by
      simp only [now, past]
      rw [List.take_add_one, present, Option.toList_some, Answered.failures_append, Answered.sighting,
        seen]
    rw [seen, step]
    simp only [down, true_and]
    exact ⟨Phase.initial_of_remembers remembered, Phase.again_of_remembers remembered⟩
  · have reached : answered.observation.sighting host ≠ .down := fun seen =>
      down (Ledger.sighting_down_iff.mp seen)
    simp [down, Phase.escalation?_of_not_down reached]

end TestbedWatchdog
