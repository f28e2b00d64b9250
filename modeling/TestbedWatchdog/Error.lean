import TestbedWatchdog.Toml.Mismatch

namespace TestbedWatchdog

inductive SystemFault where
  | notFound
  | permissionDenied
  | notADirectory
  | isADirectory
  | notUtf8
  | nulInPath
  | nulInArgument
  | other (text : String)
deriving DecidableEq

def SystemFault.message : SystemFault → String
  | .notFound => "No such file or directory (os error 2)"
  | .permissionDenied => "Permission denied (os error 13)"
  | .notADirectory => "Not a directory (os error 20)"
  | .isADirectory => "Is a directory (os error 21)"
  | .notUtf8 => "stream did not contain valid UTF-8"
  | .nulInPath => "file name contained an unexpected NUL byte"
  | .nulInArgument => "nul byte found in provided data"
  | .other text => text

inductive Section where
  | watchdog
  | probe
  | actuator
  | session
deriving DecidableEq

def Section.name : Section → String
  | .watchdog => "watchdog"
  | .probe => "probe"
  | .actuator => "actuator"
  | .session => "session"

inductive Defect where
  | noFailureLimit
  | noInterval
  | blankHost
  | duplicateHost (host : String)
  | blankProgram (owner : Section)
deriving DecidableEq

def Defect.message : Defect → String
  | .noFailureLimit => "watchdog.failure_limit must be at least 1"
  | .noInterval => "watchdog.interval must be at least 1 second"
  | .blankHost => "Empty host name in watchdog.hosts"
  | .duplicateHost host => "Duplicate host in watchdog.hosts: " ++ host
  | .blankProgram owner => owner.name ++ ".program must not be empty"

inductive Error where
  | configUnreadable (path : String) (cause : SystemFault)
  -- not a document at all, or a name that is given twice; told in the words of the reader of documents
  | configMalformed (words : String)
  | configMismatch (mismatch : Toml.Mismatch) (words : String)
  | configInvalid (defect : Defect)
  | spawnFailed (command : String) (cause : SystemFault)
  | commandFailed (command : String) (reason : String)
  | timedOut (command : String) (seconds : UInt64)
  | notAttached
  | sessionUnparsed
  | probeFailed (reason : String)
  | rebootFailed (host : String) (reason : String)
deriving DecidableEq

def Error.message : Error → String
  | .configUnreadable path cause => "Failed to read config file '" ++ path ++ "': " ++ cause.message
  | .configMalformed words => "Failed to parse config: " ++ words
  | .configMismatch _ words => "Failed to parse config: " ++ words
  | .configInvalid defect => "Config validation failed: " ++ defect.message
  | .spawnFailed command cause => "Failed to spawn '" ++ command ++ "': " ++ cause.message
  | .commandFailed command reason => "Command '" ++ command ++ "' failed: " ++ reason
  | .timedOut command seconds =>
    "Command '" ++ command ++ "' timed out after " ++ toString seconds.toNat ++ " seconds"
  | .notAttached => "Not attached to a materialization"
  | .sessionUnparsed => "Attached, but no materialization information in output"
  | .probeFailed reason => "Reachability probe failed: " ++ reason
  | .rebootFailed host reason => "Failed to power cycle '" ++ host ++ "': " ++ reason

end TestbedWatchdog
