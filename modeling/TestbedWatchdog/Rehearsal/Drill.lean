import TestbedWatchdog.Rehearsal.Clock
import TestbedWatchdog.Warden

namespace TestbedWatchdog.Rehearsal

structure Script where
  -- results still to come, each with the number of times that it comes
  rounds : List (Nat × Except Error ProbeReport)
  issued : List String := []

def nextRound : List (Nat × Except Error ProbeReport) →
    Except Error ProbeReport × List (Nat × Except Error ProbeReport)
  | [] => (.error (.probeFailed "script exhausted"), [])
  | (0, _) :: rest => nextRound rest
  | (times + 1, result) :: rest => (result, (times, result) :: rest)

def scriptedProbe (hosts : List String) : Probe Script := fun script =>
  let (result, rounds) := nextRound script.rounds
  ⟨result.map fun report => report.restrictTo hosts, { script with rounds := rounds }, []⟩

def notingSwitch (broken : List String) : PowerSwitch Script := fun host script =>
  ⟨if broken.contains host then .error (.rebootFailed host "exit 1") else .ok (),
    { script with issued := script.issued ++ [host] }, []⟩

structure Drill where
  hosts : List String
  broken : List String
  dryRun : Bool
  script : Script
  warden : Warden
  interrupt : Option Nat

structure Stretch where
  ledger : Ledger
  issued : List String
  log : List LogEvent

structure Run where
  reason : Option StopReason
  waited : Nat
  cycles : Nat
  stretch : Stretch

namespace Drill

def equipment (drill : Drill) : Equipment Script :=
  { probe := scriptedProbe drill.hosts
    switch := if drill.dryRun then PowerSwitch.rehearsed else notingSwitch drill.broken }

def logged (trace : List Effect) : List LogEvent :=
  trace.filterMap fun effect =>
    match effect with
    | .log event => some event
    | _ => none

def after (drill : Drill) (warden : Warden) (script : Script) : Drill :=
  { drill with warden := warden, script := { script with issued := [] } }

def tick (drill : Drill) : CycleReport × Stretch × Drill :=
  let done := drill.warden.tick drill.equipment drill.script
  let (report, warden) := done.value
  (report, ⟨warden.monitor.ledger, done.world.issued, logged done.trace⟩, drill.after warden done.world)

def ticks : Nat → Drill → List (CycleReport × Stretch) × Drill
  | 0, drill => ([], drill)
  | n + 1, drill =>
    let (report, stretch, next) := drill.tick
    let (rest, last) := ticks n next
    ((report, stretch) :: rest, last)

def isInterrupted (drill : Drill) : Bool :=
  match drill.interrupt with
  | none => false
  | some k => drill.warden.cycles < k && drill.warden.budget.all fun budget => k < budget

-- A warden that nothing would stop is not run.
def run? (drill : Drill) : Option Run :=
  if drill.warden.budget.isNone && !drill.isInterrupted then none
  else
    let done := drill.warden.run drill.equipment drill.interrupt 0 drill.script
    let (reason, warden) := done.value
    some
      { reason := reason
        waited := secondsPassed done.trace
        cycles := warden.cycles
        stretch := ⟨warden.monitor.ledger, done.world.issued, logged done.trace⟩ }

end Drill

end TestbedWatchdog.Rehearsal
