namespace TestbedWatchdog

structure WatchdogSettings where
  -- seconds between poll cycles
  interval : UInt64 := 60
  failureLimit : UInt32 := 3
  rebootLimit : UInt32 := 5
  dryRun : Bool := false
  -- watch these hosts only; every host that reports if empty
  hosts : List String := []
deriving DecidableEq

structure ProbeSettings where
  program : String := "ansible"
  inventory : String := "hosts.dcomp"
  pattern : String := "all"
  -- seconds
  timeout : UInt64 := 120
deriving DecidableEq

-- The host's name goes behind the arguments.
structure ActuatorSettings where
  program : String := "xdc"
  args : List String := ["power", "cycle"]
  timeout : UInt64 := 60
deriving DecidableEq

structure SessionSettings where
  program : String := "xdc"
  args : List String := ["show", "tunnel"]
  timeout : UInt64 := 30
deriving DecidableEq

structure Config where
  watchdog : WatchdogSettings := {}
  probe : ProbeSettings := {}
  actuator : ActuatorSettings := {}
  session : SessionSettings := {}
deriving DecidableEq

end TestbedWatchdog
