import TestbedWatchdog.Config.Settings
import TestbedWatchdog.Toml.Mismatch

namespace TestbedWatchdog
open Toml

structure Field (ρ : Type) where
  name : String
  store : Value → ρ → Except Mismatch ρ

namespace Config

def number (size : Nat) (expected : Expected) (hold : Nat → α) : Value → Except Mismatch α
  | .integer n => if 0 ≤ n ∧ n < size then .ok (hold n.toNat) else .error (.outOfRange n expected)
  | value => .error (.wrongType value.found expected)

def word64 : Value → Except Mismatch UInt64 := number UInt64.size .word64 UInt64.ofNat

def word32 : Value → Except Mismatch UInt32 := number UInt32.size .word32 UInt32.ofNat

def boolean : Value → Except Mismatch Bool
  | .boolean flag => .ok flag
  | value => .error (.wrongType value.found .boolean)

def text : Value → Except Mismatch String
  | .text content => .ok content
  | value => .error (.wrongType value.found .text)

def texts : Value → Except Mismatch (List String)
  | .array items => items.mapM text
  | value => .error (.wrongType value.found .sequence)

def field (name : String) (read : Value → Except Mismatch α) (put : ρ → α → ρ) : Field ρ :=
  ⟨name, fun value record => (read value).map (put record)⟩

-- Entries are taken in the order of the document, and the first that does not fit decides.
def named (fields : List (Field ρ)) (start : ρ) (given : Fields) : Except Mismatch ρ :=
  given.foldlM (fun record entry =>
    match fields.find? fun field => field.name == entry.1 with
    | some field => field.store entry.2 record
    | none => .error (.unknownField entry.1 (fields.map (·.name)))) start

-- Elements past the last field are ignored.
def positional (fields : List (Field ρ)) (start : ρ) (items : List Value) : Except Mismatch ρ :=
  (fields.zip items).foldlM (fun record entry => entry.1.store entry.2 record) start

-- A date or time is shown as a table with this one field, which no section has.
def momentField : String := "$__toml_private_datetime"

def record (name : String) (fields : List (Field ρ)) (start : ρ) : Value → Except Mismatch ρ
  | .table given => named fields start given
  | .array items => positional fields start items
  | .moment => .error (.unknownField momentField (fields.map (·.name)))
  | value => .error (.wrongType value.found (.record name))

def watchdogFields : List (Field WatchdogSettings) :=
  [field "interval" word64 fun settings n => { settings with interval := n },
   field "failure_limit" word32 fun settings n => { settings with failureLimit := n },
   field "reboot_limit" word32 fun settings n => { settings with rebootLimit := n },
   field "dry_run" boolean fun settings flag => { settings with dryRun := flag },
   field "hosts" texts fun settings hosts => { settings with hosts := hosts }]

def probeFields : List (Field ProbeSettings) :=
  [field "program" text fun settings program => { settings with program := program },
   field "inventory" text fun settings inventory => { settings with inventory := inventory },
   field "pattern" text fun settings pattern => { settings with pattern := pattern },
   field "timeout" word64 fun settings n => { settings with timeout := n }]

def actuatorFields : List (Field ActuatorSettings) :=
  [field "program" text fun settings program => { settings with program := program },
   field "args" texts fun settings args => { settings with args := args },
   field "timeout" word64 fun settings n => { settings with timeout := n }]

def sessionFields : List (Field SessionSettings) :=
  [field "program" text fun settings program => { settings with program := program },
   field "args" texts fun settings args => { settings with args := args },
   field "timeout" word64 fun settings n => { settings with timeout := n }]

def sections : List (Field Config) :=
  [field "watchdog" (record "WatchdogConfig" watchdogFields {}) fun config found =>
     { config with watchdog := found },
   field "probe" (record "ProbeConfig" probeFields {}) fun config found => { config with probe := found },
   field "actuator" (record "ActuatorConfig" actuatorFields {}) fun config found =>
     { config with actuator := found },
   field "session" (record "SessionConfig" sessionFields {}) fun config found =>
     { config with session := found }]

def decode (document : Fields) : Except Mismatch Config := named sections {} document

end Config

end TestbedWatchdog
