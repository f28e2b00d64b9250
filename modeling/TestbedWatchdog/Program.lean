import TestbedWatchdog.CommandLine.Manual
import TestbedWatchdog.CommandLine.Reader
import TestbedWatchdog.Config.Loading
import TestbedWatchdog.Listing
import TestbedWatchdog.Session.Detection
import TestbedWatchdog.Warden

namespace TestbedWatchdog

structure Surroundings (ω : Type) where
  files : Files
  tools : Tools ω
  -- the cycle behind which an interrupt comes in
  interrupt : Option Nat := none
  -- so many cycles more of a watch without an end are followed
  patience : Nat := 0

inductive Exit where
  | code (code : Nat)
  | watching
deriving DecidableEq

abbrev Outcome := Except Error Exit

-- Flags stand in for what the configuration says. A dry run cannot be turned off.
def WatchFlags.override (flags : WatchFlags) (config : Config) : Config :=
  { config with
    watchdog :=
      { config.watchdog with
        interval := flags.interval.getD config.watchdog.interval
        failureLimit := flags.failureLimit.getD config.watchdog.failureLimit
        rebootLimit := flags.rebootLimit.getD config.watchdog.rebootLimit
        dryRun := config.watchdog.dryRun || flags.dryRun } }

def Config.forWatch (files : Files) (path? : Option String) (flags : WatchFlags) : Except Error Config :=
  match loadOrDefault files path? with
  | .error error => .error error
  | .ok loaded =>
    match (flags.override loaded).validate with
    | .error error => .error error
    | .ok () => .ok (flags.override loaded)

def Config.limits (config : Config) : Limits := ⟨config.watchdog.failureLimit, config.watchdog.rebootLimit⟩

namespace Program

def succeed : Act ω Outcome := pure (.ok (.code 0))

def fail (error : Error) : Act ω Outcome := pure (.error error)

def showSession (around : Surroundings ω) (config : Config) (json : Bool) : Act ω Outcome := do
  match ← Session.detect around.tools config.session with
  | .error error => fail error
  | .ok session =>
    Act.print (Listing.session json session)
    succeed

def probeOnce (around : Surroundings ω) (config : Config) (json : Bool) : Act ω Outcome := do
  match ← Probe.ping around.tools config.probe config.watchdog.hosts with
  | .error error => fail error
  | .ok report =>
    Act.print (Listing.probe json report)
    succeed

def reboot (around : Surroundings ω) (config : Config) (host : String) (dryRun : Bool) : Act ω Outcome := do
  let dry := dryRun || config.watchdog.dryRun
  match ← PowerSwitch.ofSettings around.tools config.actuator dry host with
  | .error error => fail error
  | .ok () =>
    if !dry then
      Act.print (Listing.powerCycled host)
    succeed

def equipment (around : Surroundings ω) (config : Config) : Equipment ω :=
  { probe := Probe.ping around.tools config.probe config.watchdog.hosts
    switch := PowerSwitch.ofSettings around.tools config.actuator config.watchdog.dryRun }

def warden (config : Config) (session : Session) (once : Bool) : Warden :=
  { monitor := { limits := config.limits, session := some session }
    interval := config.watchdog.interval
    budget := if once then some 1 else none }

def watch (around : Surroundings ω) (config : Config) (once : Bool) : Act ω Outcome := do
  match ← Session.detect around.tools config.session with
  | .error error => fail error
  | .ok session =>
    Act.log (.connected session)
    if config.watchdog.dryRun then
      Act.log .dryRun
    let (reason?, _) ←
      (warden config session once).run (equipment around config) around.interrupt around.patience
    pure (.ok (if reason?.isSome then .code 0 else .watching))

def configured (found : Except Error Config) (next : Config → Act ω Outcome) : Act ω Outcome :=
  match found with
  | .error error => fail error
  | .ok config => next config

-- Only a completion script needs no configuration.
def perform (around : Surroundings ω) (line : CommandLine) : Act ω Outcome :=
  let loaded := Config.loadOrDefault around.files line.config
  match line.command with
  | .completion shell => do
    Act.print (Manual.completion shell)
    succeed
  | .session json => configured loaded fun config => showSession around config json
  | .probe json => configured loaded fun config => probeOnce around config json
  | .reboot host dryRun => configured loaded fun config => reboot around config host dryRun
  | .watch flags =>
    configured (Config.forWatch around.files line.config flags) fun config => watch around config flags.once

def refuse (refusal : Refusal) : Act ω Exit :=
  match refusal with
  | .help command => do
    Act.print (Manual.help command)
    pure (.code 0)
  | .version command => do
    Act.print (Manual.version command)
    pure (.code 0)
  | refusal => do
    Act.complain (Manual.complaint refusal)
    pure (.code 2)

def execute (around : Surroundings ω) (line : CommandLine) : Act ω Exit := do
  match ← perform around line with
  | .ok exit => pure exit
  | .error error =>
    Act.complain ("Error: " ++ error.message ++ "\n")
    pure (.code 1)

def run (around : Surroundings ω) (args : List String) : Act ω Exit :=
  match CommandLine.ofArgs args with
  | .error refusal => refuse refusal
  | .ok line => execute around line

end Program

end TestbedWatchdog
