import TestbedWatchdog.CommandLine

namespace TestbedWatchdog

inductive Argument where
  | escape
  -- two dashes and a name, with the text behind the first equals sign if there is one
  | long (name : String) (attached : Option String)
  | cluster (letters : List Char)
  | word (text : String)
deriving DecidableEq

namespace Argument

def attachment (text : List Char) : Argument :=
  match text.dropWhile (· ≠ '=') with
  | [] => .long (String.ofList text) none
  | _ :: value => .long (String.ofList (text.takeWhile (· ≠ '='))) (some (String.ofList value))

-- A single dash is a word.
def ofText (text : String) : Argument :=
  match text.toList with
  | ['-', '-'] => .escape
  | '-' :: '-' :: rest => attachment rest
  | '-' :: letter :: rest => .cluster (letter :: rest)
  | _ => .word text

end Argument

inductive Switch where
  | verbose
  | once
  | dryRun
  | json
deriving DecidableEq

inductive Setting where
  | config
  | interval
  | failureLimit
  | rebootLimit
deriving DecidableEq

inductive Operand where
  | host
  | shell
deriving DecidableEq

inductive Meaning where
  | switch (which : Switch)
  | setting (which : Setting)
  | help
  | version
deriving DecidableEq

namespace Meaning

def everywhere : List (String × Meaning) :=
  [("config", .setting .config), ("verbose", .switch .verbose), ("help", .help), ("version", .version)]

def own : Option CommandName → List (String × Meaning)
  | some .watch =>
    [("once", .switch .once), ("dry-run", .switch .dryRun), ("interval", .setting .interval),
     ("failure-limit", .setting .failureLimit), ("reboot-limit", .setting .rebootLimit)]
  | some .probe | some .session => [("json", .switch .json)]
  | some .reboot => [("dry-run", .switch .dryRun)]
  | some .completion | none => []

def ofName? (level : Option CommandName) (name : String) : Option Meaning :=
  (everywhere ++ own level).lookup name

def ofLetter? (level : Option CommandName) : Char → Option Meaning
  | 'c' => some (.setting .config)
  | 'v' => some (.switch .verbose)
  | 'h' => some .help
  | 'V' => some .version
  | 'i' => if level = some .watch then some (.setting .interval) else none
  | _ => none

end Meaning

def Operand.of? : Option CommandName → Option Operand
  | some .reboot => some .host
  | some .completion => some .shell
  | _ => none

end TestbedWatchdog
