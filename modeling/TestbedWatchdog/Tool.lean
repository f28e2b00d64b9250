import TestbedWatchdog.Error
import TestbedWatchdog.Text.Utf8

namespace TestbedWatchdog

structure Invocation where
  program : String
  args : List String
  -- seconds
  timeout : UInt64
deriving DecidableEq

def Invocation.display (call : Invocation) : String :=
  if call.args.isEmpty then call.program else call.program ++ " " ++ " ".intercalate call.args

inductive Status where
  | exited (code : Nat)
  | killed
deriving DecidableEq

def Status.isSuccess : Status → Bool
  | .exited code => code == 0
  | .killed => false

def Status.summary : Status → String
  | .exited code => "exit " ++ toString code
  | .killed => "terminated by signal"

-- A tool that has ended, or that could be stopped with its group, replies once both pipes are read to their
-- ends; whoever still holds one of them puts the reply off.
inductive Reply where
  | ended (status : Status) (stdout stderr : List UInt8)
  | refused (cause : SystemFault)
  -- the program was started, and then could not be waited for
  | lost (cause : SystemFault)
  -- still running when its time was up, and stopped
  | late
deriving DecidableEq

structure Output where
  status : Status
  stdout : String
  stderr : String
deriving DecidableEq

def Output.combined (output : Output) : String :=
  if output.stderr.isEmpty then output.stdout
  else if output.stdout.isEmpty then output.stderr
  else output.stdout ++ "\n" ++ output.stderr

def Reply.output (call : Invocation) : Reply → Except Error Output
  | .ended status stdout stderr =>
    .ok ⟨status, String.ofList (Text.Utf8.lossy stdout), String.ofList (Text.Utf8.lossy stderr)⟩
  | .refused cause => .error (.spawnFailed call.display cause)
  | .lost cause => .error (.commandFailed call.display ("Failed to wait for process: " ++ cause.message))
  | .late => .error (.timedOut call.display call.timeout)

-- The tools of a world. They may act on it and answer as they like.
abbrev Tools (ω : Type) := Invocation → ω → Reply × ω

end TestbedWatchdog
