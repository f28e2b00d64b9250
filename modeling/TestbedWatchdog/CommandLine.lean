namespace TestbedWatchdog

inductive Shell where
  | bash
  | elvish
  | fish
  | powershell
  | zsh
deriving DecidableEq

structure WatchFlags where
  once : Bool := false
  dryRun : Bool := false
  interval : Option UInt64 := none
  failureLimit : Option UInt32 := none
  rebootLimit : Option UInt32 := none
deriving DecidableEq

inductive Command where
  | watch (flags : WatchFlags)
  | probe (json : Bool)
  | session (json : Bool)
  | reboot (host : String) (dryRun : Bool)
  | completion (shell : Shell)
deriving DecidableEq

structure CommandLine where
  config : Option String := none
  verbose : Bool := false
  command : Command
deriving DecidableEq

inductive CommandName where
  | watch
  | probe
  | session
  | reboot
  | completion
deriving DecidableEq

inductive Refusal where
  | unknownArgument
  | unknownCommand
  | badValue
  | badNumber
  | repeated
  | surplusValue
  | missingOperand
  | missingCommand
  | nothingGiven
  -- not a fault: the text that was asked for is all there is to do
  | help (command : Option CommandName)
  | version (command : Option CommandName)
deriving DecidableEq

def Shell.names : List (String × Shell) :=
  [("bash", .bash), ("elvish", .elvish), ("fish", .fish), ("powershell", .powershell), ("zsh", .zsh)]

def Shell.ofName? (name : String) : Option Shell := Shell.names.lookup name

def Shell.name : Shell → String
  | .bash => "bash"
  | .elvish => "elvish"
  | .fish => "fish"
  | .powershell => "powershell"
  | .zsh => "zsh"

theorem Shell.ofName?_name (shell : Shell) : Shell.ofName? shell.name = some shell := by
  cases shell <;> decide

def CommandName.names : List (String × CommandName) :=
  [("watch", .watch), ("probe", .probe), ("session", .session), ("reboot", .reboot),
   ("completion", .completion)]

def CommandName.ofName? (name : String) : Option CommandName := CommandName.names.lookup name

def CommandName.name : CommandName → String
  | .watch => "watch"
  | .probe => "probe"
  | .session => "session"
  | .reboot => "reboot"
  | .completion => "completion"

theorem CommandName.ofName?_name (command : CommandName) : CommandName.ofName? command.name = some command := by
  cases command <;> decide

end TestbedWatchdog
