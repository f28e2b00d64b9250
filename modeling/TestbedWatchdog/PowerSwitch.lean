import TestbedWatchdog.Act
import TestbedWatchdog.Config.Settings
import TestbedWatchdog.Text.Blank

namespace TestbedWatchdog

abbrev PowerSwitch (ω : Type) := String → Act ω (Except Error Unit)

namespace PowerSwitch

def invocation (settings : ActuatorSettings) (host : String) : Invocation :=
  ⟨settings.program, settings.args ++ [host], settings.timeout⟩

def refusal (output : Output) : String :=
  output.status.summary ++ ": " ++ String.ofList (Text.trim output.combined.toList)

def remote (tools : Tools ω) (settings : ActuatorSettings) : PowerSwitch ω := fun host => do
  match ← Act.run tools (invocation settings host) with
  | .error error => pure (.error (.rebootFailed host error.message))
  | .ok output =>
    if output.status.isSuccess then pure (.ok ())
    else pure (.error (.rebootFailed host (refusal output)))

def rehearsed : PowerSwitch ω := fun host => do
  Act.log (.wouldPowerCycle host)
  pure (.ok ())

def ofSettings (tools : Tools ω) (settings : ActuatorSettings) (dryRun : Bool) : PowerSwitch ω :=
  if dryRun then rehearsed else remote tools settings

end PowerSwitch

end TestbedWatchdog
