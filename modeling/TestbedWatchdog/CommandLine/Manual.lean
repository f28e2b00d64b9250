import TestbedWatchdog.CommandLine

namespace TestbedWatchdog.Manual

def programName : String := "nodewatch"

def release : String := "0.1.0"

def version : Option CommandName → String
  | none => programName ++ " " ++ release ++ "\n"
  | some command => programName ++ "-" ++ command.name ++ " " ++ release ++ "\n"

def summary : CommandName → String
  | .watch => "Watch all hosts and power cycle the ones that stay unreachable"
  | .probe => "Run one reachability probe and show the status of each host"
  | .session => "Show the materialization this machine is attached to"
  | .reboot => "Power cycle a single node"
  | .completion => "Write a shell completion script"

def usage : Option CommandName → String
  | none => programName ++ " [-c FILE] [-v] COMMAND"
  | some .watch =>
    programName ++ " watch [--once] [--dry-run] [-i SECONDS] [--failure-limit N] [--reboot-limit N]"
  | some .probe => programName ++ " probe [--json]"
  | some .session => programName ++ " session [--json]"
  | some .reboot => programName ++ " reboot [--dry-run] HOST"
  | some .completion => programName ++ " completion SHELL"

def everyCommand : List CommandName := CommandName.names.map (·.2)

def help : Option CommandName → String
  | none =>
    "Usage: " ++ usage none ++ "\n\n" ++
      String.join (everyCommand.map fun command => usage (some command) ++ "\n    " ++ summary command ++ "\n")
  | some command => summary command ++ "\n\nUsage: " ++ usage (some command) ++ "\n"

def complaint (refusal : Refusal) : String :=
  let fault :=
    match refusal with
    | .unknownArgument => "unexpected argument"
    | .unknownCommand => "no such command"
    | .badValue => "a value is missing or not allowed"
    | .badNumber => "not a number in range"
    | .repeated => "an option is given twice"
    | .surplusValue => "a value for an option that takes none"
    | .missingOperand => "an operand is missing"
    | .missingCommand => "a command is missing"
    | .nothingGiven | .help _ | .version _ => "nothing to do"
  "error: " ++ fault ++ "\n\nUsage: " ++ usage none ++ "\n"

def words : String := " ".intercalate (everyCommand.map CommandName.name)

def completion : Shell → String
  | .bash => "complete -W '" ++ words ++ "' " ++ programName ++ "\n"
  | .elvish =>
    "set edit:completion:arg-completer[" ++ programName ++ "] = \x7b|@_| put " ++ words ++ " \x7d\n"
  | .fish => "complete -c " ++ programName ++ " -f -a '" ++ words ++ "'\n"
  | .powershell =>
    "Register-ArgumentCompleter -Native -CommandName " ++ programName ++ " -ScriptBlock \x7b '" ++ words ++
      "' -split ' ' \x7d\n"
  | .zsh => "_watchdog() \x7b compadd -- " ++ words ++ " \x7d\ncompdef _watchdog " ++ programName ++ "\n"

end TestbedWatchdog.Manual
