import TestbedWatchdog.Log
import TestbedWatchdog.Tool

namespace TestbedWatchdog

inductive Effect where
  | attempt (call : Invocation) (reply : Reply)
  | log (event : LogEvent)
  -- a wait that was not broken off, with the seconds asked for
  | wait (seconds : UInt64)
  | stdout (text : String)
  | stderr (text : String)
deriving DecidableEq

structure Done (ω α : Type) where
  value : α
  world : ω
  trace : List Effect

def Act (ω α : Type) : Type := ω → Done ω α

namespace Act

def done (value : α) : Act ω α := fun world => ⟨value, world, []⟩

def andThen (act : Act ω α) (next : α → Act ω β) : Act ω β := fun world =>
  let first := act world
  let second := next first.value first.world
  ⟨second.value, second.world, first.trace ++ second.trace⟩

instance : Monad (Act ω) where
  pure := done
  bind := andThen

def leave (effect : Effect) : Act ω Unit := fun world => ⟨(), world, [effect]⟩

def log (event : LogEvent) : Act ω Unit := leave (.log event)

def print (text : String) : Act ω Unit := leave (.stdout text)

def complain (text : String) : Act ω Unit := leave (.stderr text)

def wait (seconds : UInt64) : Act ω Unit := leave (.wait seconds)

def call (tools : Tools ω) (invocation : Invocation) : Act ω Reply := fun world =>
  let answer := tools invocation world
  ⟨answer.1, answer.2, [.attempt invocation answer.1]⟩

def run (tools : Tools ω) (invocation : Invocation) : Act ω (Except Error Output) := do
  let reply ← call tools invocation
  pure (reply.output invocation)

end Act

end TestbedWatchdog
