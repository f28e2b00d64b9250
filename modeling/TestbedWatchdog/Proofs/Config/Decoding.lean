import Mathlib
import TestbedWatchdog.Config.Loading
import TestbedWatchdog.Proofs.Config.Sections

namespace TestbedWatchdog
open Toml Config

def WatchdogSettings.known : List (String × Kind) :=
  [("interval", .word64), ("failure_limit", .word32), ("reboot_limit", .word32), ("dry_run", .flag),
    ("hosts", .texts)]

def ProbeSettings.known : List (String × Kind) :=
  [("program", .text), ("inventory", .text), ("pattern", .text), ("timeout", .word64)]

def ActuatorSettings.known : List (String × Kind) :=
  [("program", .text), ("args", .texts), ("timeout", .word64)]

def SessionSettings.known : List (String × Kind) :=
  [("program", .text), ("args", .texts), ("timeout", .word64)]

@[mk_iff]
structure WatchdogSettings.DrawnFrom (given : Fields) (settings : WatchdogSettings) : Prop where
  interval : Drawn .word64 given "interval" (60 : UInt64) settings.interval
  failureLimit : Drawn .word32 given "failure_limit" (3 : UInt32) settings.failureLimit
  rebootLimit : Drawn .word32 given "reboot_limit" (5 : UInt32) settings.rebootLimit
  dryRun : Drawn .flag given "dry_run" false settings.dryRun
  hosts : Drawn .texts given "hosts" [] settings.hosts

@[mk_iff]
structure ProbeSettings.DrawnFrom (given : Fields) (settings : ProbeSettings) : Prop where
  program : Drawn .text given "program" "ansible" settings.program
  inventory : Drawn .text given "inventory" "hosts.dcomp" settings.inventory
  pattern : Drawn .text given "pattern" "all" settings.pattern
  timeout : Drawn .word64 given "timeout" (120 : UInt64) settings.timeout

@[mk_iff]
structure ActuatorSettings.DrawnFrom (given : Fields) (settings : ActuatorSettings) : Prop where
  program : Drawn .text given "program" "xdc" settings.program
  args : Drawn .texts given "args" ["power", "cycle"] settings.args
  timeout : Drawn .word64 given "timeout" (60 : UInt64) settings.timeout

@[mk_iff]
structure SessionSettings.DrawnFrom (given : Fields) (settings : SessionSettings) : Prop where
  program : Drawn .text given "program" "xdc" settings.program
  args : Drawn .texts given "args" ["show", "tunnel"] settings.args
  timeout : Drawn .word64 given "timeout" (30 : UInt64) settings.timeout

namespace Config

def schema : List (String × List (String × Kind)) :=
  [("watchdog", WatchdogSettings.known), ("probe", ProbeSettings.known),
    ("actuator", ActuatorSettings.known), ("session", SessionSettings.known)]

structure Accepted (document : Fields) : Prop where
  known : ∀ entry ∈ document, entry.1 ∈ schema.map (·.1)
  fit : ∀ part ∈ schema, ∀ value, document.lookup part.1 = some value → SectionFits part.2 value

@[mk_iff]
structure DrawnFrom (document : Fields) (config : Config) : Prop where
  watchdog : FromSection document "watchdog" WatchdogSettings.known config.watchdog.DrawnFrom
  probe : FromSection document "probe" ProbeSettings.known config.probe.DrawnFrom
  actuator : FromSection document "actuator" ActuatorSettings.known config.actuator.DrawnFrom
  session : FromSection document "session" SessionSettings.known config.session.DrawnFrom

def watchdogPart : Part where
  name := "watchdog"
  title := "WatchdogConfig"
  known := WatchdogSettings.known
  distinct := by decide
  Settings := WatchdogSettings
  layout :=
    { toFun := fun settings =>
        (settings.interval, settings.failureLimit, settings.rebootLimit, settings.dryRun, settings.hosts, ())
      invFun := fun tuple => ⟨tuple.1, tuple.2.1, tuple.2.2.1, tuple.2.2.2.1, tuple.2.2.2.2.1⟩ }
  get := (·.watchdog)
  put := fun config found => { config with watchdog := found }
  DrawnFrom := WatchdogSettings.DrawnFrom
  drawn_iff := WatchdogSettings.drawnFrom_iff

def probePart : Part where
  name := "probe"
  title := "ProbeConfig"
  known := ProbeSettings.known
  distinct := by decide
  Settings := ProbeSettings
  layout :=
    { toFun := fun settings => (settings.program, settings.inventory, settings.pattern, settings.timeout, ())
      invFun := fun tuple => ⟨tuple.1, tuple.2.1, tuple.2.2.1, tuple.2.2.2.1⟩ }
  get := (·.probe)
  put := fun config found => { config with probe := found }
  DrawnFrom := ProbeSettings.DrawnFrom
  drawn_iff := ProbeSettings.drawnFrom_iff

def actuatorPart : Part where
  name := "actuator"
  title := "ActuatorConfig"
  known := ActuatorSettings.known
  distinct := by decide
  Settings := ActuatorSettings
  layout :=
    { toFun := fun settings => (settings.program, settings.args, settings.timeout, ())
      invFun := fun tuple => ⟨tuple.1, tuple.2.1, tuple.2.2.1⟩ }
  get := (·.actuator)
  put := fun config found => { config with actuator := found }
  DrawnFrom := ActuatorSettings.DrawnFrom
  drawn_iff := ActuatorSettings.drawnFrom_iff

def sessionPart : Part where
  name := "session"
  title := "SessionConfig"
  known := SessionSettings.known
  distinct := by decide
  Settings := SessionSettings
  layout :=
    { toFun := fun settings => (settings.program, settings.args, settings.timeout, ())
      invFun := fun tuple => ⟨tuple.1, tuple.2.1, tuple.2.2.1⟩ }
  get := (·.session)
  put := fun config found => { config with session := found }
  DrawnFrom := SessionSettings.DrawnFrom
  drawn_iff := SessionSettings.drawnFrom_iff

def parts : List Part := [watchdogPart, probePart, actuatorPart, sessionPart]

def sectionColumns : List (Column Config) := parts.map Part.column

theorem sections_lawful : Column.Lawful sectionColumns where
  distinct := by decide
  own := by simp [sectionColumns, parts, Part.column, watchdogPart, probePart, actuatorPart, sessionPart]
  other := by simp [sectionColumns, parts, Part.column, watchdogPart, probePart, actuatorPart, sessionPart]
  whole := by
    intro one two same
    cases one
    cases two
    simpa [sectionColumns, parts, Part.column, watchdogPart, probePart, actuatorPart, sessionPart] using same

theorem decode_eq (document : Fields) :
    decode document = named (sectionColumns.map Column.field) {} document := rfl

theorem schema_eq : schema = parts.map fun part => (part.name, part.known) := rfl

variable {document : Fields} {config : Config}

theorem drawn_parts_iff : config.DrawnFrom document ↔
    ∀ part ∈ parts, FromSection document part.name part.known (part.DrawnFrom · (part.get config)) := by
  simp only [parts, List.forall_mem_cons, List.not_mem_nil, false_implies, implies_true, and_true]
  exact drawnFrom_iff document config

theorem columns_hold_iff (sound : (Value.table document).Sound) :
    (∀ column ∈ sectionColumns, column.Holds {} document config) ↔
      (∀ part ∈ schema, ∀ value, document.lookup part.1 = some value → SectionFits part.2 value) ∧
        config.DrawnFrom document := by
  rw [sectionColumns, List.forall_mem_map, schema_eq, List.forall_mem_map, drawn_parts_iff, ← forall₂_and]
  exact forall₂_congr fun part _ => part.holds_iff (sound.lookup part.name)

theorem decode_ok_iff (sound : (Value.table document).Sound) :
    decode document = .ok config ↔ Accepted document ∧ config.DrawnFrom document := by
  have known : (∀ entry ∈ document, ∃ column ∈ sectionColumns, column.name = entry.1) ↔
      ∀ entry ∈ document, entry.1 ∈ schema.map (·.1) := by
    refine forall₂_congr fun entry _ => ?_
    exact List.mem_map.symm
  rw [decode_eq, Column.named_ok_iff sections_lawful sound.distinct, columns_hold_iff sound, known]
  constructor
  · intro held
    obtain ⟨known, fit, drawn⟩ := held
    exact ⟨⟨known, fit⟩, drawn⟩
  · intro held
    obtain ⟨⟨known, fit⟩, drawn⟩ := held
    exact ⟨known, fit, drawn⟩

theorem decodes_of_accepted (sound : (Value.table document).Sound) (accepted : Accepted document) :
    ∃ config, decode document = .ok config := by
  rw [decode_eq, Column.named_accepts_iff sections_lawful.distinct]
  intro entry present
  have fit := sound.each entry present
  have found := (HostTable.lookup_of_nodup sound.distinct).mpr present
  obtain ⟨known, among, same⟩ := List.mem_map.mp (accepted.known entry present)
  have fits := accepted.fit known among entry.2 (same ▸ found)
  rw [schema_eq] at among
  obtain ⟨part, member, rfl⟩ := List.mem_map.mp among
  exact ⟨part.column, List.mem_map_of_mem member, same, (part.accepts_iff fit).mpr fits⟩

theorem sections_unordered : ∀ column ∈ sectionColumns, Unordered column.read :=
  List.forall_mem_map.mpr fun part _ => part.unordered

end Config

def Files.Hold (files : Files) (path : String) (document : Fields) : Prop :=
  ∃ bytes content, files.read path = .ok bytes ∧ Text.Utf8.strict? bytes = some content ∧
    document? content = some document

theorem Files.Hold.sound {files : Files} {path : String} {document : Fields}
    (held : files.Hold path document) : (Value.table document).Sound := by
  obtain ⟨_, _, _, _, stated⟩ := held
  exact document?_sound stated

namespace Config

variable {files : Files} {path : String} {document : Fields} {config : Config}

theorem load_ok_iff (held : files.Hold path document) :
    load files path = .ok config ↔ decode document = .ok config ∧ config.validate = .ok () := by
  obtain ⟨bytes, content, readable, decoded, stated⟩ := held
  simp only [load, readable, decoded, ofText, stated]
  cases decode document with
  | error mismatch => simp
  | ok found =>
    simp only [Except.ok.injEq]
    cases valid : found.validate with
    | error error =>
      refine iff_of_false nofun fun accepted => ?_
      obtain ⟨rfl, passed⟩ := accepted
      cases valid.symm.trans passed
    | ok accord =>
      simp only [Except.ok.injEq]
      constructor
      · intro same
        exact ⟨same, same ▸ valid⟩
      · intro accepted
        exact accepted.1

theorem load_unordered {others : Files} {elsewhere : String} {other : Fields}
    (held : files.Hold path document) (otherHeld : others.Hold elsewhere other)
    (alike : (Value.table document).Alike (.table other)) (loaded : load files path = .ok config) :
    load others elsewhere = .ok config := by
  obtain ⟨decoded, valid⟩ := (load_ok_iff held).mp loaded
  refine (load_ok_iff otherHeld).mpr ⟨?_, valid⟩
  exact named_unordered sections_lawful sections_unordered held.sound otherHeld.sound alike decoded

end Config

theorem each_field_drawn_or_default (files : Files) (path : String) (document : Fields)
    (held : files.Hold path document) :
    (∀ config, Config.load files path = .ok config ↔
      Config.Accepted document ∧ config.DrawnFrom document ∧ config.validate = .ok ()) ∧
    (Config.Accepted document → ∃ config : Config, config.DrawnFrom document ∧
      ∀ other : Config, other.DrawnFrom document → other = config) ∧
    ∀ (others : Files) (elsewhere : String) (other : Fields), others.Hold elsewhere other →
      (Value.table document).Alike (.table other) →
      ∀ config, Config.load files path = .ok config ↔ Config.load others elsewhere = .ok config := by
  have sound : (Value.table document).Sound := held.sound
  refine ⟨?_, ?_, ?_⟩
  · intro config
    rw [Config.load_ok_iff held, Config.decode_ok_iff sound, and_assoc]
  · intro accepted
    obtain ⟨config, decoded⟩ := Config.decodes_of_accepted sound accepted
    refine ⟨config, ((Config.decode_ok_iff sound).mp decoded).2, ?_⟩
    intro other drawn
    have also := (Config.decode_ok_iff sound).mpr ⟨accepted, drawn⟩
    exact Except.ok.inj (also.symm.trans decoded)
  · intro others elsewhere other otherHeld alike config
    exact ⟨Config.load_unordered held otherHeld alike, Config.load_unordered otherHeld held alike.symm⟩

-- One section by position, with an element too many, one by name, and two that are not there; and the same
-- tree in another order, with dotted keys in place of a header.
def ordered : String := "session = [\"tool\", [], 5, 0]\n[watchdog]\ninterval = 30\nhosts = [\"n1\"]\n"

def reordered : String := "watchdog.hosts = [\"n1\"]\nwatchdog.interval = 30\nsession = [\"tool\", [], 5, 0]\n"

def Files.only (text : String) : Files where
  present := fun _ => true
  read := fun _ => .ok (text.toList.map (·.toNat.toUInt8))
  wording := fun _ _ => ""

set_option maxRecDepth 1000 in
theorem drawn_in_either_order :
    let session : String × Value := ("session", .array [.text "tool", .array [], .integer 5, .integer 0])
    let hosts : String × Value := ("hosts", .array [.text "n1"])
    let document : Fields := [session, ("watchdog", .table [("interval", .integer 30), hosts])]
    let other : Fields := [("watchdog", .table [hosts, ("interval", .integer 30)]), session]
    let config : Config :=
      { watchdog := { interval := 30, hosts := ["n1"] }, session := { program := "tool", args := [], timeout := 5 } }
    (Files.only ordered).Hold "c" document ∧ (Files.only reordered).Hold "c" other ∧
      (Value.table document).Alike (.table other) ∧ Config.Accepted document ∧
      config.DrawnFrom document ∧ Config.load (Files.only reordered) "c" = .ok config := by
  intro session hosts document other config
  have held : (Files.only ordered).Hold "c" document :=
    ⟨_, ordered.toList, rfl, by decide +kernel, by cbv⟩
  have otherHeld : (Files.only reordered).Hold "c" other :=
    ⟨_, reordered.toList, rfl, by decide +kernel, by cbv⟩
  have inner : (Value.table [("interval", .integer 30), hosts]).Alike
      (.table [hosts, ("interval", .integer 30)]) := .permuted (by decide) (.swap _ _ _)
  have alike : (Value.table document).Alike (.table other) := by
    refine .of_perm (by decide) (.swap _ _ _) fun one first two second same => ?_
    simp only [document, other, List.mem_cons, List.not_mem_nil, or_false] at first second
    rcases first with rfl | rfl
    · rcases second with rfl | rfl
      · exact absurd same (by decide)
      · exact .same
    · rcases second with rfl | rfl
      · exact inner
      · exact absurd same (by decide)
  have loaded : Config.load (Files.only ordered) "c" = .ok config := by decide +kernel
  obtain ⟨draws, _, same⟩ := each_field_drawn_or_default _ _ document held
  obtain ⟨accepted, drawn, _⟩ := (draws config).mp loaded
  exact ⟨held, otherHeld, alike, accepted, drawn, (same _ _ other otherHeld alike config).mp loaded⟩

end TestbedWatchdog
