import TestbedWatchdog.Act
import TestbedWatchdog.Config.Settings
import TestbedWatchdog.Session

namespace TestbedWatchdog.Session

def invocation (settings : SessionSettings) : Invocation :=
  ⟨settings.program, settings.args, settings.timeout⟩

-- What a tool prints counts only if it has succeeded.
def ofOutput (output : Output) : Except Error Session :=
  if output.status.isSuccess then
    match parse? output.combined with
    | some session => .ok session
    | none => .error .sessionUnparsed
  else .error .notAttached

def detect (tools : Tools ω) (settings : SessionSettings) : Act ω (Except Error Session) := do
  match ← Act.run tools (invocation settings) with
  | .error error => pure (.error error)
  | .ok output => pure (ofOutput output)

end TestbedWatchdog.Session
