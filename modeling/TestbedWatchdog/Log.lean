import TestbedWatchdog.Error
import TestbedWatchdog.Ledger
import TestbedWatchdog.Session

namespace TestbedWatchdog

inductive Level where
  | info
  | warn
  | error
deriving DecidableEq

inductive FieldValue where
  | number (n : Nat)
  | flag (value : Bool)
  | text (content : String)
deriving DecidableEq

inductive LogEvent where
  | connected (session : Session)
  | dryRun
  | started (interval : UInt64) (limits : Limits)
  | silentHosts (hosts : HostSet)
  | probeFailed (error : Error) (tracked : Nat)
  | restarting (host node : String) (failures : UInt32)
  | restartingAgain (host node : String) (checks : UInt32)
  | wouldPowerCycle (host : String)
  | rebootFailed (host : String) (error : Error)
  | allFine
  | badHosts (hosts : HostTable UInt32)
  | nodesRebooting (hosts : HostTable UInt32)
  | shuttingDown (cycles : Nat)
  | dropping (state : HostState)
deriving DecidableEq

namespace LogEvent

def level : LogEvent → Level
  | connected _ | dryRun | started .. | wouldPowerCycle _ | allFine | shuttingDown _ | dropping _ => .info
  | silentHosts _ | probeFailed .. | restarting .. | restartingAgain .. | badHosts _ | nodesRebooting _ =>
    .warn
  | rebootFailed .. => .error

def message : LogEvent → String
  | connected _ => "connected"
  | dryRun => "dry run: no node will be power cycled"
  | started .. => "warden: starting node watchdog"
  | silentHosts _ => "no status reported for listed hosts"
  | probeFailed .. => "reachability check failed, leaving host state unchanged"
  | restarting .. => "restarting host"
  | restartingAgain .. => "host hasn't come back after reboot, rebooting again"
  | wouldPowerCycle _ => "dry run: would power cycle"
  | rebootFailed .. => "error rebooting node"
  | allFine => "all hosts are fine"
  | badHosts _ => "bad hosts"
  | nodesRebooting _ => "nodes rebooting"
  | shuttingDown _ => "warden: shutting down"
  | dropping _ => "dropping in-memory state"

def braced (items : List String) : String := "\x7b" ++ ", ".intercalate items ++ "\x7d"

def setText (hosts : HostSet) : String := braced (hosts.hosts.map Text.quoted)

def tableText (table : HostTable UInt32) : String :=
  braced (table.entries.map fun entry => Text.quoted entry.1 ++ ": " ++ toString entry.2.toNat)

def fields : LogEvent → List (String × FieldValue)
  | connected session => [("session", .text session.display)]
  | dryRun => []
  | started interval limits =>
    [("interval_secs", .number interval.toNat), ("failure_limit", .number limits.failureLimit.toNat),
     ("reboot_limit", .number limits.rebootLimit.toNat)]
  | silentHosts hosts => [("hosts", .text (setText hosts))]
  | probeFailed error tracked => [("error", .text error.message), ("tracked", .number tracked)]
  | restarting host node failures =>
    [("host", .text host), ("node", .text node), ("failures", .number failures.toNat)]
  | restartingAgain host node checks =>
    [("host", .text host), ("node", .text node), ("checks", .number checks.toNat)]
  | wouldPowerCycle host => [("host", .text host)]
  | rebootFailed host error => [("host", .text host), ("error", .text error.message)]
  | allFine => []
  | badHosts hosts => [("hosts", .text (tableText hosts))]
  | nodesRebooting hosts => [("hosts", .text (tableText hosts))]
  | shuttingDown cycles => [("cycles", .number cycles)]
  | dropping state =>
    [("host", .text state.host), ("failures", .number state.phase.failures.toNat),
     ("rebooting", .flag state.phase.isRebooting), ("waited", .number state.phase.waited.toNat)]

end LogEvent

end TestbedWatchdog
