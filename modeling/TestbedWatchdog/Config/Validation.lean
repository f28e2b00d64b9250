import TestbedWatchdog.Config.Settings
import TestbedWatchdog.Error
import TestbedWatchdog.Text.Blank

namespace TestbedWatchdog.Config

def isBlank (name : String) : Bool := Text.allBlank name.toList

def hostDefect? (seen : List String) : List String → Option Defect
  | [] => none
  | host :: rest =>
    if isBlank host then some .blankHost
    else if seen.contains host then some (.duplicateHost host)
    else hostDefect? (host :: seen) rest

def programDefect? (owner : Section) (program : String) : Option Defect :=
  if isBlank program then some (.blankProgram owner) else none

def defect? (config : Config) : Option Defect :=
  if config.watchdog.failureLimit = 0 then some .noFailureLimit
  else if config.watchdog.interval = 0 then some .noInterval
  else
    hostDefect? [] config.watchdog.hosts
      <|> programDefect? .probe config.probe.program
      <|> programDefect? .actuator config.actuator.program
      <|> programDefect? .session config.session.program

def validate (config : Config) : Except Error Unit :=
  match config.defect? with
  | some defect => .error (.configInvalid defect)
  | none => .ok ()

end TestbedWatchdog.Config
