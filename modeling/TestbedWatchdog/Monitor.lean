import TestbedWatchdog.PowerSwitch
import TestbedWatchdog.Probe.Ping

namespace TestbedWatchdog

inductive CycleReport where
  | skipped (reason : String)
  | observed (unreachable missing : HostSet) (escalations : List Escalation) (failedReboots : List String)
deriving DecidableEq

namespace CycleReport

def isSkipped : CycleReport → Bool
  | skipped _ => true
  | observed .. => false

def escalations : CycleReport → List Escalation
  | skipped _ => []
  | observed _ _ escalations _ => escalations

end CycleReport

structure Monitor where
  limits : Limits
  session : Option Session := none
  ledger : Ledger := {}
deriving DecidableEq

namespace Monitor

def nodeName (monitor : Monitor) (host : String) : String :=
  match monitor.session with
  | some session => session.qualify host
  | none => host

-- A host escalates for the first time exactly when it reaches the limit, hence its count is the limit.
def announcement (monitor : Monitor) (escalation : Escalation) : LogEvent :=
  match escalation.kind with
  | .initial =>
    .restarting escalation.host (monitor.nodeName escalation.host) monitor.limits.failureLimit
  | .again waited => .restartingAgain escalation.host (monitor.nodeName escalation.host) waited

-- Whether the power cycle was accepted. The ledger has moved on already.
def escalate (monitor : Monitor) (switch : PowerSwitch ω) (escalation : Escalation) : Act ω Bool := do
  Act.log (monitor.announcement escalation)
  match ← switch escalation.host with
  | .ok () => pure true
  | .error error =>
    Act.log (.rebootFailed escalation.host error)
    pure false

-- The hosts whose power cycle failed. A failure does not keep the others from their turn.
def escalateAll (monitor : Monitor) (switch : PowerSwitch ω) : List Escalation → Act ω (List String)
  | [] => pure []
  | escalation :: rest => do
    let accepted ← monitor.escalate switch escalation
    let failed ← monitor.escalateAll switch rest
    pure (if accepted then failed else escalation.host :: failed)

def summary (ledger : Ledger) : List LogEvent :=
  if ledger.isEmpty then [.allFine]
  else
    (if ledger.failing.isEmpty then [] else [.badHosts ledger.failing]) ++
    (if ledger.rebooting.isEmpty then [] else [.nodesRebooting ledger.rebooting])

def logAll : List LogEvent → Act ω Unit
  | [] => pure ()
  | event :: rest => do
    Act.log event
    logAll rest

def settle (monitor : Monitor) (switch : PowerSwitch ω) :
    Except Error ProbeReport → Act ω (CycleReport × Monitor)
  | .error error => do
    Act.log (.probeFailed error monitor.ledger.size)
    pure (.skipped error.message, monitor)
  | .ok report => do
    let (ledger, escalations) := monitor.ledger.observe report.unreachable report.missing monitor.limits
    let failed ← monitor.escalateAll switch escalations
    logAll (summary ledger)
    pure (.observed report.unreachable report.missing escalations failed, { monitor with ledger := ledger })

def pollCycle (monitor : Monitor) (probe : Probe ω) (switch : PowerSwitch ω) :
    Act ω (CycleReport × Monitor) := do
  let result ← probe
  monitor.settle switch result

end Monitor

end TestbedWatchdog
