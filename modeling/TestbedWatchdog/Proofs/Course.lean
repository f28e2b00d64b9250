import TestbedWatchdog.Monitor
import TestbedWatchdog.Proofs.Ledger.Observation

namespace TestbedWatchdog

namespace Act

def aside (act : Act ω α) : Act (ω × List String) α := fun world =>
  let done := act world.1
  ⟨done.value, (done.world, world.2), done.trace⟩

-- The second act does what the first does, and notes these names beside the world, where neither probe nor
-- switch can see them.
def Notes (act : Act ω α) (noting : Act (ω × List String) α) (names : List String) : Prop :=
  ∀ world notes, noting (world, notes) =
    ⟨(act world).value, ((act world).world, notes ++ names), (act world).trace⟩

theorem notes_pure (value : α) : Notes (pure value : Act ω α) (pure value) [] := by
  intro world notes
  simp [pure, done]

theorem notes_leave (effect : Effect) : Notes (leave effect : Act ω Unit) (leave effect) [] := by
  intro world notes
  simp [leave]

theorem notes_bind (one two : List String) {next : α → Act ω β}
    {continued : α → Act (ω × List String) β} (first : Notes act noting one)
    (second : ∀ value, Notes (next value) (continued value) two) :
    Notes (act >>= next) (noting >>= continued) (one ++ two) := by
  intro world notes
  simp only [bind, andThen, first world notes]
  rw [second]
  simp

end Act

def PowerSwitch.noted (switch : PowerSwitch ω) : PowerSwitch (ω × List String) := fun host world =>
  let done := switch host world.1
  ⟨done.value, (done.world, world.2 ++ [host]), done.trace⟩

namespace Monitor

theorem escalate_notes (monitor : Monitor) (switch : PowerSwitch ω) (escalation : Escalation) :
    Act.Notes (monitor.escalate switch escalation) (monitor.escalate switch.noted escalation)
      [escalation.host] := by
  have asked : Act.Notes (switch escalation.host) (switch.noted escalation.host) [escalation.host] :=
    fun _ _ => rfl
  refine Act.notes_bind [] _ (Act.notes_leave _) fun _ => ?_
  refine Act.notes_bind _ [] asked fun result => ?_
  cases result with
  | ok => exact Act.notes_pure _
  | error error => exact Act.notes_bind [] [] (Act.notes_leave _) fun _ => Act.notes_pure _

theorem escalateAll_notes (monitor : Monitor) (switch : PowerSwitch ω) (escalations : List Escalation) :
    Act.Notes (monitor.escalateAll switch escalations) (monitor.escalateAll switch.noted escalations)
      (escalations.map (·.host)) := by
  induction escalations with
  | nil => exact Act.notes_pure _
  | cons escalation rest ih =>
    refine Act.notes_bind [escalation.host] _ (monitor.escalate_notes switch escalation) fun _ => ?_
    simpa using Act.notes_bind _ [] ih fun _ => Act.notes_pure _

theorem logAll_notes (events : List LogEvent) :
    Act.Notes (logAll events : Act ω Unit) (logAll events) [] := by
  induction events with
  | nil => exact Act.notes_pure _
  | cons event rest ih => exact Act.notes_bind [] [] (Act.notes_leave _) fun _ => ih

theorem logAll_eq (events : List LogEvent) (world : ω) :
    logAll events world = ⟨(), world, events.map .log⟩ := by
  induction events with
  | nil => rfl
  | cons event rest ih => simp [logAll, bind, Act.andThen, Act.log, Act.leave, ih]

def observed (monitor : Monitor) (report : ProbeReport) : Ledger × List Escalation :=
  monitor.ledger.observe report.unreachable report.missing monitor.limits

def settled (monitor : Monitor) : Except Error ProbeReport → Monitor
  | .error _ => monitor
  | .ok report => { monitor with ledger := (monitor.observed report).1 }

def escalations (monitor : Monitor) : Except Error ProbeReport → List Escalation
  | .error _ => []
  | .ok report => (monitor.observed report).2

theorem settle_notes (monitor : Monitor) (switch : PowerSwitch ω) (found : Except Error ProbeReport) :
    Act.Notes (monitor.settle switch found) (monitor.settle switch.noted found)
      ((monitor.escalations found).map (·.host)) := by
  cases found with
  | error error => exact Act.notes_bind [] [] (Act.notes_leave _) fun _ => Act.notes_pure _
  | ok report =>
    rw [← List.append_nil (List.map _ _)]
    refine Act.notes_bind _ [] (monitor.escalateAll_notes switch _) fun _ => ?_
    exact Act.notes_bind [] [] (logAll_notes _) fun _ => Act.notes_pure _

theorem settle_monitor (monitor : Monitor) (switch : PowerSwitch ω) (found : Except Error ProbeReport)
    (world : ω) : (monitor.settle switch found world).value.2 = monitor.settled found := by
  cases found <;> rfl

theorem settle_escalations (monitor : Monitor) (switch : PowerSwitch ω)
    (found : Except Error ProbeReport) (world : ω) :
    (monitor.settle switch found world).value.1.escalations = monitor.escalations found := by
  cases found <;> rfl

end Monitor

structure Round (ω : Type) where
  before : Monitor
  probed : Done ω (Except Error ProbeReport)
  polled : Done ω (CycleReport × Monitor)
  commanded : List String

namespace Round

def found (round : Round ω) : Except Error ProbeReport := round.probed.value

def report (round : Round ω) : CycleReport := round.polled.value.1

def after (round : Round ω) : Monitor := round.polled.value.2

-- A round that goes by the rules of the ledger, whatever the switch has answered.
structure Lawful (round : Round ω) : Prop where
  after : round.after = round.before.settled round.found
  commanded : round.commanded = (round.before.escalations round.found).map (·.host)
  escalations : round.report.escalations = round.before.escalations round.found

def of (switch : PowerSwitch ω) (probe : Probe ω) (monitor : Monitor) (world : ω) : Round ω :=
  { before := monitor
    probed := probe world
    polled := monitor.pollCycle probe switch world
    commanded := (monitor.pollCycle probe.aside switch.noted (world, [])).world.2 }

end Round

namespace Monitor

def rounds (switch : PowerSwitch ω) : List (Probe ω) → Monitor → ω → List (Round ω)
  | [], _, _ => []
  | probe :: later, monitor, world =>
    let done := monitor.pollCycle probe switch world
    .of switch probe monitor world :: rounds switch later done.value.2 done.world

def ending (switch : PowerSwitch ω) : List (Probe ω) → Monitor → ω → Monitor
  | [], monitor, _ => monitor
  | probe :: later, monitor, world =>
    let done := monitor.pollCycle probe switch world
    ending switch later done.value.2 done.world

variable {switch : PowerSwitch ω} {probe : Probe ω} {probes : List (Probe ω)} {monitor : Monitor}
  {world : ω} {round : Round ω}

theorem pollCycle_noted (notes : List String) :
    monitor.pollCycle probe.aside switch.noted (world, notes) =
      let done := monitor.pollCycle probe switch world
      ⟨done.value, (done.world, notes ++ (monitor.escalations (probe world).value).map (·.host)),
        done.trace⟩ := by
  have settled := monitor.settle_notes switch (probe world).value (probe world).world notes
  simp only [pollCycle, bind, Act.andThen, Act.aside, settled]

theorem round_after : monitor.settled (Round.of switch probe monitor world).found =
    (monitor.pollCycle probe switch world).value.2 :=
  (monitor.settle_monitor switch _ _).symm

theorem round_lawful : (Round.of switch probe monitor world).Lawful where
  after := round_after.symm
  commanded := by simp [Round.of, pollCycle_noted, Round.found]
  escalations := monitor.settle_escalations switch _ _

@[simp] theorem rounds_length : (rounds switch probes monitor world).length = probes.length := by
  induction probes generalizing monitor world with
  | nil => rfl
  | cons probe later ih => simp [rounds, ih]

-- What the monitor has come to is settled by the results so far alone.
theorem ending_eq : ending switch probes monitor world =
    ((rounds switch probes monitor world).map (·.found)).foldl settled monitor := by
  induction probes generalizing monitor world with
  | nil => rfl
  | cons probe later ih =>
    simp only [ending, rounds, List.map_cons, List.foldl_cons]
    rw [ih, round_after]

theorem rounds_of (present : round ∈ rounds switch probes monitor world) :
    ∃ probe ∈ probes, ∃ world, round = .of switch probe round.before world := by
  induction probes generalizing monitor world with
  | nil => cases present
  | cons probe later ih =>
    rcases List.mem_cons.mp present with rfl | rest
    · exact ⟨probe, List.mem_cons_self, world, rfl⟩
    · obtain ⟨other, member, between, same⟩ := ih rest
      exact ⟨other, List.mem_cons_of_mem _ member, between, same⟩

theorem rounds_probed (present : round ∈ rounds switch probes monitor world) :
    ∃ probe ∈ probes, ∃ world, round.probed = probe world := by
  obtain ⟨probe, member, between, same⟩ := rounds_of present
  exact ⟨probe, member, between, congrArg Round.probed same⟩

theorem rounds_getElem? (present : (rounds switch probes monitor world)[i]? = some round) :
    round.Lawful ∧
      round.before =
        (((rounds switch probes monitor world).take i).map (·.found)).foldl settled monitor := by
  induction probes generalizing monitor world i with
  | nil => cases present
  | cons probe later ih =>
    cases i with
    | zero =>
      obtain rfl := Option.some.inj present
      exact ⟨round_lawful, rfl⟩
    | succ i =>
      obtain ⟨lawful, before⟩ := ih present
      refine ⟨lawful, before.trans ?_⟩
      simp only [rounds, List.take_succ_cons, List.map_cons, List.foldl_cons]
      rw [round_after]

end Monitor

end TestbedWatchdog
