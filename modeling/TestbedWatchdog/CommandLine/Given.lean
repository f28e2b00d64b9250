import TestbedWatchdog.CommandLine.Argument
import TestbedWatchdog.CommandLine.Numeral

namespace TestbedWatchdog

-- Each thing is given once at most, and each value is read when it is put in.
structure Given where
  config : Option String := none
  verbose : Bool := false
  once : Bool := false
  dryRun : Bool := false
  json : Bool := false
  interval : Option UInt64 := none
  failureLimit : Option UInt32 := none
  rebootLimit : Option UInt32 := none
  host : Option String := none
  shell : Option Shell := none
deriving DecidableEq

namespace Given

def fill (held : Option α) (found : Except Refusal α) : Except Refusal (Option α) :=
  if held.isSome then .error .repeated else found.map some

def flip (held : Bool) : Except Refusal Bool := if held then .error .repeated else .ok true

def path (text : String) : Except Refusal String := if text.isEmpty then .error .badValue else .ok text

def turnOn (given : Given) : Switch → Except Refusal Given
  | .verbose => (flip given.verbose).map fun on => { given with verbose := on }
  | .once => (flip given.once).map fun on => { given with once := on }
  | .dryRun => (flip given.dryRun).map fun on => { given with dryRun := on }
  | .json => (flip given.json).map fun on => { given with json := on }

def put (given : Given) (setting : Setting) (text : String) : Except Refusal Given :=
  match setting with
  | .config => (fill given.config (path text)).map fun found => { given with config := found }
  | .interval => (fill given.interval (Numeral.word64 text)).map fun found => { given with interval := found }
  | .failureLimit =>
    (fill given.failureLimit (Numeral.word32 text)).map fun found => { given with failureLimit := found }
  | .rebootLimit =>
    (fill given.rebootLimit (Numeral.word32 text)).map fun found => { given with rebootLimit := found }

def take (given : Given) (operand : Operand) (text : String) : Except Refusal Given :=
  match operand with
  | .host => .ok { given with host := some text }
  | .shell =>
    match Shell.ofName? text with
    | some shell => .ok { given with shell := some shell }
    | none => .error .badValue

def command (given : Given) : CommandName → Except Refusal Command
  | .watch =>
    .ok (.watch ⟨given.once, given.dryRun, given.interval, given.failureLimit, given.rebootLimit⟩)
  | .probe => .ok (.probe given.json)
  | .session => .ok (.session given.json)
  | .reboot =>
    match given.host with
    | some host => .ok (.reboot host given.dryRun)
    | none => .error .missingOperand
  | .completion =>
    match given.shell with
    | some shell => .ok (.completion shell)
    | none => .error .missingOperand

end Given

end TestbedWatchdog
