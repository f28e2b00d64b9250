import Mathlib.Data.List.Forall2
import TestbedWatchdog.Proofs.Course
import TestbedWatchdog.Rehearsal.Drill

namespace TestbedWatchdog

namespace PowerSwitch

def inTurn (switch : PowerSwitch ω) : List String → Act ω (List (String × Except Error Unit))
  | [] => pure []
  | host :: rest => do
    let answer ← switch host
    let answers ← inTurn switch rest
    pure ((host, answer) :: answers)

def refused (answers : List (String × Except Error Unit)) : List String :=
  (answers.filter fun answer => !answer.2.isOk).map (·.1)

theorem refused_rehearsed (hosts : List String) (world : ω) :
    refused (rehearsed.inTurn hosts world).value = [] := by
  induction hosts with
  | nil => rfl
  | cons host rest ih => exact ih

end PowerSwitch

namespace CycleReport

def failedReboots : CycleReport → List String
  | skipped _ => []
  | observed _ _ _ failed => failed

def decision : CycleReport → String ⊕ HostSet × HostSet × List Escalation
  | skipped reason => .inl reason
  | observed unreachable missing escalations _ => .inr (unreachable, missing, escalations)

end CycleReport

namespace Monitor

open PowerSwitch

variable (monitor : Monitor) (switch : PowerSwitch ω) (found : Except Error ProbeReport) (world : ω)

theorem escalate_asks (escalation : Escalation) :
    (monitor.escalate switch escalation world).value = (switch escalation.host world).value.isOk ∧
      (monitor.escalate switch escalation world).world = (switch escalation.host world).world := by
  simp only [escalate, bind, Act.andThen, Act.log, Act.leave]
  cases (switch escalation.host world).value with
  | ok => exact ⟨rfl, rfl⟩
  | error error => exact ⟨rfl, rfl⟩

-- A refusal neither stops the loop nor changes what is asked next.
theorem escalateAll_inTurn (escalations : List Escalation) :
    let calls := switch.inTurn (escalations.map (·.host)) world
    (monitor.escalateAll switch escalations world).value = refused calls.value ∧
      (monitor.escalateAll switch escalations world).world = calls.world := by
  induction escalations generalizing world with
  | nil => exact ⟨rfl, rfl⟩
  | cons escalation rest ih =>
    obtain ⟨accepted, between⟩ := monitor.escalate_asks switch world escalation
    obtain ⟨failed, after⟩ := ih (switch escalation.host world).world
    simp only [escalateAll, inTurn, List.map_cons, bind, Act.andThen, pure, Act.done, accepted, between,
      failed, after, and_true]
    cases (switch escalation.host world).value with
    | ok => simp [refused, Except.isOk, Except.toBool]
    | error error => simp [refused, Except.isOk, Except.toBool]

theorem settle_inTurn :
    let done := monitor.settle switch found world
    let calls := switch.inTurn ((monitor.escalations found).map (·.host)) world
    done.world = calls.world ∧ done.value.1.failedReboots = refused calls.value := by
  cases found with
  | error error => exact ⟨rfl, rfl⟩
  | ok report =>
    obtain ⟨failed, after⟩ := monitor.escalateAll_inTurn switch world (monitor.observed report).2
    exact ⟨(congrArg Done.world (logAll_eq _ _)).trans after, failed⟩

def decision : Except Error ProbeReport → String ⊕ HostSet × HostSet × List Escalation
  | .error error => .inl error.message
  | .ok report => .inr (report.unreachable, report.missing, (monitor.observed report).2)

theorem settle_decision :
    (monitor.settle switch found world).value.1.decision = monitor.decision found := by
  cases found <;> rfl

end Monitor

namespace Round

structure Alike (round : Round α) (other : Round β) : Prop where
  ledger : round.after.ledger = other.after.ledger
  decision : round.report.decision = other.report.decision
  commanded : round.commanded = other.commanded

-- A cycle that hands each host that escalates to the switch, in order and once, and touches nothing else;
-- the report names the hosts that were refused.
structure Obeyed (switch : PowerSwitch ω) (round : Round ω) : Prop where
  commanded : round.commanded = round.report.escalations.map (·.host)
  calls : round.polled.world = (switch.inTurn round.commanded round.probed.world).world
  failed : round.report.failedReboots =
    PowerSwitch.refused (switch.inTurn round.commanded round.probed.world).value
  skipped : ∀ error, round.found = .error error →
    round.report = .skipped error.message ∧ round.commanded = [] ∧ round.after = round.before

end Round

namespace Monitor

variable {switch : PowerSwitch α} {other : PowerSwitch β} {probe : Probe α} {probes : List (Probe α)}
  {otherProbe : Probe β} {otherProbes : List (Probe β)} {monitor : Monitor} {world : α} {otherWorld : β}

theorem round_alike (same : (Round.of switch probe monitor world).found =
    (Round.of other otherProbe monitor otherWorld).found) :
    (Round.of switch probe monitor world).Alike (Round.of other otherProbe monitor otherWorld) where
  ledger := by
    rw [round_lawful.after, round_lawful.after, same]
    rfl
  decision := by
    have decided := monitor.settle_decision switch (probe world).value (probe world).world
    have otherwise := monitor.settle_decision other (otherProbe otherWorld).value
      (otherProbe otherWorld).world
    exact decided.trans ((congrArg monitor.decision same).trans otherwise.symm)
  commanded := by
    rw [round_lawful.commanded, round_lawful.commanded, same]
    rfl

theorem rounds_alike (same : (rounds switch probes monitor world).map (·.found) =
    (rounds other otherProbes monitor otherWorld).map (·.found)) :
    List.Forall₂ Round.Alike (rounds switch probes monitor world)
      (rounds other otherProbes monitor otherWorld) := by
  induction probes generalizing otherProbes monitor world otherWorld with
  | nil =>
    cases otherProbes with
    | nil => exact .nil
    | cons => cases same
  | cons probe later ih =>
    cases otherProbes with
    | nil => cases same
    | cons otherProbe otherLater =>
      simp only [rounds, List.map_cons, List.cons.injEq, ← round_after] at same ⊢
      obtain ⟨first, rest⟩ := same
      rw [← first] at rest ⊢
      exact .cons (round_alike first) (ih rest)

theorem round_obeyed : (Round.of switch probe monitor world).Obeyed switch where
  commanded := by rw [round_lawful.commanded, round_lawful.escalations]
  calls := by
    rw [round_lawful.commanded]
    exact (monitor.settle_inTurn switch _ _).1
  failed := by
    rw [round_lawful.commanded]
    exact (monitor.settle_inTurn switch _ _).2
  skipped := by
    intro error failed
    have same : (probe world).value = .error error := failed
    refine ⟨?_, ?_, ?_⟩
    · change (monitor.settle switch (probe world).value _).value.1 = _
      rw [same]
      rfl
    · rw [round_lawful.commanded, failed]
      rfl
    · rw [round_lawful.after, failed]
      rfl

theorem rounds_obeyed : ∀ round ∈ rounds switch probes monitor world, round.Obeyed switch := by
  intro round present
  obtain ⟨probe, _, between, same⟩ := rounds_of present
  rw [same]
  exact round_obeyed

end Monitor

-- Two courses with the same results, from the same state of the ledger. The switches share nothing, and
-- neither do the worlds that they act on.
theorem decisions_independent_of_switch (monitor : Monitor) (switch : PowerSwitch α)
    (other : PowerSwitch β) (probes : List (Probe α)) (otherProbes : List (Probe β)) (world : α)
    (otherWorld : β)
    (same : (Monitor.rounds switch probes monitor world).map (·.found) =
      (Monitor.rounds other otherProbes monitor otherWorld).map (·.found)) :
    let rounds := Monitor.rounds switch probes monitor world
    let others := Monitor.rounds other otherProbes monitor otherWorld
    List.Forall₂ Round.Alike rounds others ∧
      (∀ round ∈ rounds, round.Obeyed switch) ∧
      (∀ round ∈ others, round.Obeyed other) ∧
      ∀ round ∈ Monitor.rounds PowerSwitch.rehearsed probes monitor world,
        round.report.failedReboots = [] := by
  intro rounds others
  refine ⟨Monitor.rounds_alike same, Monitor.rounds_obeyed, Monitor.rounds_obeyed, ?_⟩
  intro round present
  rw [(Monitor.rounds_obeyed round present).failed]
  exact PowerSwitch.refused_rehearsed _ _

-- Two hosts that are down but for a cycle without a result, with a switch that refuses the first of them.
def blackout : Rehearsal.Script :=
  { rounds :=
      [(2, .ok (ProbeReport.parse "n1 | DOWN x\nn2 | DOWN x\n")), (1, .error (.probeFailed "no route")),
        (2, .ok (ProbeReport.parse "n1 | DOWN x\nn2 | DOWN x\n"))] }

def blackoutRounds (switch : PowerSwitch Rehearsal.Script) : List (Round Rehearsal.Script) :=
  Monitor.rounds switch (List.replicate 5 (Rehearsal.scriptedProbe [])) { limits := ⟨2, 0⟩ } blackout

theorem blackout_rehearsed :
    let live := blackoutRounds (Rehearsal.notingSwitch ["n1"])
    let drill := blackoutRounds PowerSwitch.rehearsed
    live.map (·.found) = drill.map (·.found) ∧ List.Forall₂ Round.Alike live drill ∧
      drill.map (·.commanded) = [[], ["n1", "n2"], [], ["n1", "n2"], ["n1", "n2"]] ∧
      live.map (·.report.failedReboots) = [[], ["n1"], [], ["n1"], ["n1"]] ∧
      ∃ round ∈ live, round.found = .error (.probeFailed "no route") ∧ round.after = round.before := by
  intro live drill
  have same : live.map (·.found) = drill.map (·.found) := by decide +kernel
  obtain ⟨alike, obeyed, _⟩ := decisions_independent_of_switch _ _ _ _ _ _ _ same
  have commands : drill.map (·.commanded) = [[], ["n1", "n2"], [], ["n1", "n2"], ["n1", "n2"]] := by
    decide +kernel
  have refusals : live.map (·.report.failedReboots) = [[], ["n1"], [], ["n1"], ["n1"]] := by
    decide +kernel
  have third : 2 < live.length := by decide +kernel
  have failed : ∀ third : 2 < live.length, live[2].found = .error (.probeFailed "no route") := by
    decide +kernel
  have present : live[2] ∈ live := List.getElem_mem third
  exact ⟨same, alike, commands, refusals, live[2], present, failed third,
    ((obeyed live[2] present).skipped _ (failed third)).2.2⟩

end TestbedWatchdog
