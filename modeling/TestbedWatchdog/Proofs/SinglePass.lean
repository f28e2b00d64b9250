import TestbedWatchdog.Proofs.Config.Validation
import TestbedWatchdog.Proofs.Text.ByteOrder
import TestbedWatchdog.Proofs.Watch
import TestbedWatchdog.Rehearsal.Toolbox

namespace TestbedWatchdog

namespace Probe

end Probe

namespace Program

variable {around : Surroundings ω} {config : Config} {line : CommandLine} {flags : WatchFlags}
  {args : List String} {world : ω}

-- Two of three nodes are down, by their full names and not in order, and no power cycle is ever accepted.
def blackout : Surroundings Unit :=
  { files := ⟨fun _ => false, fun _ => .error .notFound, fun _ _ => ""⟩
    tools := (Rehearsal.Toolbox.mk
      [⟨"xdc", some ["show", "tunnel"], .ended (.exited 0) (Text.bytes "Materialization: p e m\n") []⟩,
        ⟨"ansible", none, .printed "n2.m | DOWN => x\nn3.m | SUCCESS => x\nn1.m | DOWN => x\n"⟩,
        ⟨"xdc", none, .late⟩]).tools }

end Program

end TestbedWatchdog
