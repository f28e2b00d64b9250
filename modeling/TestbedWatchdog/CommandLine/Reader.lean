import TestbedWatchdog.CommandLine.Given

namespace TestbedWatchdog

-- A value in an argument of its own, and an operand, stays pending until the next option or operand is known or
-- the arguments end: an argument that no level knows is refused before the pending value is looked at.
inductive Pending where
  | nothing
  | awaiting (setting : Setting)
  | value (setting : Setting) (text : String)
  | operand (operand : Operand) (text : String)
deriving DecidableEq

structure Reading where
  given : Given := {}
  pending : Pending := .nothing
  closed : Bool := false
deriving DecidableEq

namespace Reading

def settle (reading : Reading) : Except Refusal Given :=
  match reading.pending with
  | .nothing => .ok reading.given
  | .awaiting _ => .error .badValue
  | .value setting text => reading.given.put setting text
  | .operand operand text => reading.given.take operand text

def settled (reading : Reading) (next : Given → Except Refusal Given) : Except Refusal Reading :=
  match reading.settle with
  | .error refusal => .error refusal
  | .ok given => (next given).map fun given => { reading with given := given, pending := .nothing }

def hold (reading : Reading) (pending : Pending) : Except Refusal Reading :=
  reading.settle.map fun given => { reading with given := given, pending := pending }

def long (level : Option CommandName) (reading : Reading) (name : String) (attached : Option String) :
    Except Refusal Reading :=
  match Meaning.ofName? level name, attached with
  | none, _ => .error .unknownArgument
  | some (.setting setting), some text => reading.settled fun given => given.put setting text
  | some (.setting setting), none => reading.hold (.awaiting setting)
  | some _, some _ => .error .surplusValue
  | some (.switch switch), none => reading.settled fun given => given.turnOn switch
  | some .help, none => reading.settled fun _ => .error (.help level)
  | some .version, none => reading.settled fun _ => .error (.version level)

-- Letter by letter. What stands behind the letter of a setting is its value, less an equals sign.
def cluster (level : Option CommandName) : List Char → Reading → Except Refusal Reading
  | [], reading => .ok reading
  | letter :: rest, reading =>
    match Meaning.ofLetter? level letter with
    | none => .error .unknownArgument
    | some (.switch switch) =>
      match reading.settled fun given => given.turnOn switch with
      | .error refusal => .error refusal
      | .ok reading => cluster level rest reading
    | some (.setting setting) =>
      match rest with
      | [] => reading.hold (.awaiting setting)
      | '=' :: text => reading.settled fun given => given.put setting (String.ofList text)
      | text => reading.settled fun given => given.put setting (String.ofList text)
    | some .help => reading.settled fun _ => .error (.help level)
    | some .version => reading.settled fun _ => .error (.version level)

def hasOperand (reading : Reading) : Bool :=
  reading.given.host.isSome || reading.given.shell.isSome ||
    match reading.pending with
    | .operand .. => true
    | _ => false

def operand (level : Option CommandName) (reading : Reading) (text : String) : Except Refusal Reading :=
  match Operand.of? level with
  | none => .error .unknownArgument
  | some operand =>
    if reading.hasOperand then .error .unknownArgument else reading.hold (.operand operand text)

def step (level : Option CommandName) (reading : Reading) (text : String) : Except Refusal Reading :=
  if reading.closed then reading.operand level text
  else
    match Argument.ofText text with
    | .escape => .ok { reading with closed := true }
    | .long name attached => reading.long level name attached
    | .cluster letters => reading.cluster level letters
    | .word text =>
      match reading.pending with
      | .awaiting setting => .ok { reading with pending := .value setting text }
      | _ => reading.operand level text

def standsAlone (reading : Reading) (text : String) : Bool :=
  Argument.ofText text == .word text &&
    match reading.pending with
    | .awaiting _ => false
    | _ => true

end Reading

namespace CommandLine

def behind (command : CommandName) (args : List String) : Except Refusal (Given × Command) := do
  let reading ← args.foldlM (Reading.step (some command)) {}
  let given ← reading.settle
  let found ← given.command command
  pure (given, found)

def helpFor : List String → Refusal
  | [] => .help none
  | [name] =>
    match CommandName.ofName? name with
    | some command => .help (some command)
    | none => if name = "help" then .help none else .unknownCommand
  | _ => .unknownCommand

def unfinished (reading : Reading) : Refusal :=
  match reading.settle with
  | .error refusal => refusal
  | .ok given => if given = {} then .nothingGiven else .missingCommand

-- The arguments behind the command are read first. What they say about an option that both levels know
-- wins over what has been said before the command.
def join (reading : Reading) (inner : Given × Command) : Except Refusal CommandLine :=
  reading.settle.map fun outer =>
    ⟨inner.1.config <|> outer.config, outer.verbose || inner.1.verbose, inner.2⟩

-- Where only operands follow no command can come any more, and there are no operands before a command.
def misplaced (text : String) : Refusal :=
  if (CommandName.ofName? text).isSome ∨ text = "help" then .unknownArgument else .unknownCommand

def read (reading : Reading) : List String → Except Refusal CommandLine
  | [] => .error (unfinished reading)
  | text :: rest =>
    if reading.closed then .error (misplaced text)
    else if reading.standsAlone text then
      match CommandName.ofName? text with
      | some command =>
        match behind command rest with
        | .error refusal => .error refusal
        | .ok inner => join reading inner
      | none => .error (if text = "help" then helpFor rest else .unknownCommand)
    else
      match reading.step none text with
      | .error refusal => .error refusal
      | .ok reading => read reading rest

def ofArgs (args : List String) : Except Refusal CommandLine := read {} args

end CommandLine

end TestbedWatchdog
