import TestbedWatchdog.Act

namespace TestbedWatchdog.Rehearsal

-- Timers go by milliseconds and fire at the first tick behind their time, so every wait takes a millisecond
-- more than was asked for; and no timer is set further ahead than thirty years.
def longestWait : Nat := 30 * 365 * 24 * 60 * 60

-- milliseconds
def waitTicks (seconds : UInt64) : Nat := 1000 * min seconds.toNat longestWait + 1

def ticksPassed (trace : List Effect) : Nat :=
  trace.foldl (fun passed effect =>
    match effect with
    | .wait seconds => passed + waitTicks seconds
    | _ => passed) 0

def secondsPassed (trace : List Effect) : Nat := ticksPassed trace / 1000

end TestbedWatchdog.Rehearsal
