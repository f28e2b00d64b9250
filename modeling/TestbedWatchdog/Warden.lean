import TestbedWatchdog.Monitor

namespace TestbedWatchdog

inductive StopReason where
  | once
  | interrupted
  | cycleLimit
deriving DecidableEq

structure Equipment (ω : Type) where
  probe : Probe ω
  switch : PowerSwitch ω

structure Warden where
  monitor : Monitor
  -- seconds
  interval : UInt64
  -- neither number has a bound here, and no run counts past sixty-four bits (cycles_in_word)
  budget : Option Nat := none
  cycles : Nat := 0
deriving DecidableEq

namespace Warden

def tick (equipment : Equipment ω) (warden : Warden) : Act ω (CycleReport × Warden) := do
  let (report, monitor) ← warden.monitor.pollCycle equipment.probe equipment.switch
  pure (report, { warden with monitor := monitor, cycles := warden.cycles + 1 })

def spent? (warden : Warden) : Option StopReason :=
  match warden.budget with
  | none => none
  | some budget =>
    if budget ≤ warden.cycles then some (if budget = 1 then .once else .cycleLimit) else none

def farewell (warden : Warden) : List LogEvent :=
  .shuttingDown warden.cycles :: warden.monitor.ledger.states.map .dropping

-- At most so many cycles. The interrupt comes in during the wait behind the cycle of that number. No
-- reason is given if the warden would go on.
def loop (equipment : Equipment ω) (interrupt : Option Nat) :
    Nat → Warden → Act ω (Option StopReason × Warden)
  | 0, warden => pure (none, warden)
  | bound + 1, warden => do
    let (_, warden) ← warden.tick equipment
    match warden.spent? with
    | some reason => pure (some reason, warden)
    | none =>
      if interrupt = some warden.cycles then
        Monitor.logAll warden.farewell
        pure (some .interrupted, warden)
      else
        Act.wait warden.interval
        loop equipment interrupt bound warden

def runFor (equipment : Equipment ω) (interrupt : Option Nat) (bound : Nat) (warden : Warden) :
    Act ω (Option StopReason × Warden) := do
  Act.log (.started warden.interval warden.monitor.limits)
  loop equipment interrupt bound warden

-- As many cycles as the budget or the interrupt can ask for. The warden goes on behind them exactly if
-- it has no budget and no interrupt is to come; then so many more are followed as the patience allows.
def run (equipment : Equipment ω) (interrupt : Option Nat) (patience : Nat) (warden : Warden) :
    Act ω (Option StopReason × Warden) :=
  warden.runFor equipment interrupt (warden.budget.getD 0 + interrupt.getD 0 + 1 + patience)

end Warden

end TestbedWatchdog
