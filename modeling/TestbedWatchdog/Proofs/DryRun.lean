import TestbedWatchdog.Proofs.Text.ByteOrder
import TestbedWatchdog.Proofs.Watch
import TestbedWatchdog.Rehearsal.Toolbox

namespace TestbedWatchdog

namespace Program

variable {around : Surroundings ω} {config : Config} {line : CommandLine} {args : List String} {host : String}
  {dryRun : Bool} {world : ω}

end Program

end TestbedWatchdog
