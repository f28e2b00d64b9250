import TestbedWatchdog.Tool

namespace TestbedWatchdog.Rehearsal

structure Rule where
  program : String
  -- the arguments that the rule is for; any if there are none
  args : Option (List String) := none
  reply : Reply
deriving DecidableEq

def Rule.covers (rule : Rule) (call : Invocation) : Bool :=
  rule.program == call.program && (rule.args.isNone || rule.args == some call.args)

structure Toolbox where
  rules : List Rule
deriving DecidableEq

namespace Toolbox

-- Only the two programs that the defaults name are there, by exactly these names.
def programs : List String := ["ansible", "xdc"]

def hasNul (text : String) : Bool := text.toList.contains '\x00'

-- The first rule decides; without one a program succeeds and prints nothing.
def reply (toolbox : Toolbox) (call : Invocation) : Reply :=
  if hasNul call.program || call.args.any hasNul then .refused .nulInArgument
  else if programs.contains call.program then
    match toolbox.rules.find? fun rule => rule.covers call with
    | some rule => rule.reply
    | none => .ended (.exited 0) [] []
  else if call.program = "/" then .refused .permissionDenied
  else .refused .notFound

def tools (toolbox : Toolbox) : Tools ω := fun call world => (toolbox.reply call, world)

end Toolbox

end TestbedWatchdog.Rehearsal
