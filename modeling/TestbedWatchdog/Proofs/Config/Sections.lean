import Mathlib.Logic.Equiv.Defs
import TestbedWatchdog.Proofs.Config.Order

namespace TestbedWatchdog.Config
open Toml

-- What the fields of a section hold, one after another. Only of such tuples it is shown that no field gets
-- into another's way; a section that is laid out like one has it from there.
abbrev Tuple : List (String × Kind) → Type
  | [] => Unit
  | field :: rest => field.2.Held × Tuple rest

def DrawnEach : (known : List (String × Kind)) → Fields → (start held : Tuple known) → Prop
  | [], _, _, _ => True
  | [field], given, start, held => Drawn field.2 given field.1 start.1 held.1
  | field :: next :: rest, given, start, held =>
    Drawn field.2 given field.1 start.1 held.1 ∧ DrawnEach (next :: rest) given start.2 held.2

namespace Cell

def within (get : ρ → τ) (put : ρ → τ → ρ) (cell : Cell τ) : Cell ρ :=
  ⟨cell.name, cell.kind, fun record => cell.get (get record),
    fun record held => put record (cell.put (get record) held)⟩

def spread : (known : List (String × Kind)) → List (Cell (Tuple known))
  | [] => []
  | field :: rest =>
    ⟨field.1, field.2, Prod.fst, fun whole held => (held, whole.2)⟩ ::
      (spread rest).map (within Prod.snd fun whole others => (whole.1, others))

section Parts

variable {cells : List (Cell τ)} {get : ρ → τ} {put : ρ → τ → ρ}

theorem known_within : Cell.known (cells.map (within get put)) = Cell.known cells := by
  rw [Cell.known, List.map_map]
  rfl

theorem within_own (stays : ∀ record part, get (put record part) = part)
    (lawful : Column.Lawful (columns cells)) :
    ∀ cell ∈ cells, ∀ record held,
      (cell.within get put).get ((cell.within get put).put record held) = held := by
  intro cell among record held
  simp only [within, stays]
  exact lawful.own cell.column (List.mem_map_of_mem among) (get record) held

theorem within_other (stays : ∀ record part, get (put record part) = part)
    (lawful : Column.Lawful (columns cells)) :
    ∀ one ∈ cells, ∀ two ∈ cells, one.name ≠ two.name → ∀ record held,
      (one.within get put).get ((two.within get put).put record held) = (one.within get put).get record := by
  intro one first two second different record held
  simp only [within, stays]
  exact lawful.other one.column (List.mem_map_of_mem first) two.column (List.mem_map_of_mem second) different
    (get record) held

theorem within_whole (lawful : Column.Lawful (columns cells)) {one two : ρ}
    (same : ∀ cell ∈ cells, (cell.within get put).get one = (cell.within get put).get two) :
    get one = get two := by
  refine lawful.whole (get one) (get two) fun column among => ?_
  obtain ⟨cell, member, rfl⟩ := List.mem_map.mp among
  exact same cell member

end Parts

variable {known : List (String × Kind)} {given : Fields} {start held : Tuple known}

theorem known_spread (known : List (String × Kind)) : Cell.known (spread known) = known := by
  induction known with
  | nil => rfl
  | cons field rest ih =>
    exact congrArg (field :: ·) (known_within.trans ih)

theorem forall_spread_iff :
    (∀ cell ∈ spread known, Drawn cell.kind given cell.name (cell.get start) (cell.get held)) ↔
      DrawnEach known given start held := by
  induction known with
  | nil => simp [spread, DrawnEach]
  | cons field rest ih =>
    cases rest with
    | nil => simp [spread, DrawnEach]
    | cons next rest =>
      rw [spread, List.forall_mem_cons, List.forall_mem_map]
      exact and_congr_right fun _ => ih

theorem spread_lawful (distinct : (known.map (·.1)).Nodup) : Column.Lawful (columns (spread known)) := by
  induction known with
  | nil => exact ⟨.nil, List.forall_mem_nil _, List.forall_mem_nil _, fun _ _ _ => rfl⟩
  | cons field rest ih =>
    have lawful := ih (List.nodup_cons.mp distinct).2
    refine ⟨?distinct, ?own, ?other, ?whole⟩
    case distinct => rwa [columns_names, known_spread]
    all_goals simp only [columns, spread, List.map_cons, List.forall_mem_cons, List.forall_mem_map]
    case own => exact ⟨fun _ _ => rfl, within_own (fun _ _ => rfl) lawful⟩
    case other =>
      refine ⟨⟨fun different => absurd rfl different, fun _ _ _ _ _ => rfl⟩, fun one first => ?_⟩
      exact ⟨fun _ _ _ => rfl, within_other (fun _ _ => rfl) lawful one first⟩
    case whole => exact fun one two same => Prod.ext same.1 (within_whole lawful same.2)

end Cell

-- A section of a configuration: how its fields are laid out, and what it is for them to be drawn from values
-- that a document gives.
structure Part where
  name : String
  title : String
  known : List (String × Kind)
  distinct : (known.map (·.1)).Nodup
  Settings : Type
  layout : Settings ≃ Tuple known
  get : Config → Settings
  put : Config → Settings → Config
  DrawnFrom : Fields → Settings → Prop
  drawn_iff : ∀ given settings,
    DrawnFrom given settings ↔ DrawnEach known given (layout (get {})) (layout settings)

namespace Part

def cells (part : Part) : List (Cell part.Settings) :=
  (Cell.spread part.known).map (Cell.within part.layout fun _ => part.layout.symm)

def column (part : Part) : Column Config :=
  ⟨part.name, part.Settings, record part.title ((Cell.columns part.cells).map Column.field) (part.get {}),
    part.get, part.put⟩

variable {document given : Fields} {config : Config} {value : Value}

theorem known_cells (part : Part) : Cell.known part.cells = part.known :=
  Cell.known_within.trans (Cell.known_spread part.known)

theorem cells_names (part : Part) : (Cell.columns part.cells).map (·.name) = part.known.map (·.1) := by
  rw [Cell.columns_names, known_cells]

theorem lawful (part : Part) : Column.Lawful (Cell.columns part.cells) := by
  have stays : ∀ (_ : part.Settings) tuple, part.layout (part.layout.symm tuple) = tuple :=
    fun _ => part.layout.apply_symm_apply
  have spread := Cell.spread_lawful part.distinct
  refine ⟨?distinct, ?own, ?other, ?whole⟩
  case distinct => exact part.cells_names ▸ part.distinct
  all_goals simp only [Cell.columns, cells, List.forall_mem_map]
  case own => exact Cell.within_own stays spread
  case other => exact Cell.within_other stays spread
  case whole => exact fun one two same => part.layout.injective (Cell.within_whole spread same)

theorem unordered (part : Part) : Unordered part.column.read :=
  record_unordered part.lawful (Cell.columns_unordered part.cells) part.title (part.get {})

theorem accepts_iff (part : Part) (sound : value.Sound) :
    (∃ held, part.column.read value = .ok held) ↔ SectionFits part.known value := by
  rw [← part.known_cells]
  exact Cell.record_accepts_iff part.lawful.distinct part.title (part.get {}) sound

theorem holds_each_iff (part : Part) (settings : part.Settings) :
    (∀ column ∈ Cell.columns part.cells, column.Holds (part.get {}) given settings) ↔
      part.DrawnFrom given settings := by
  rw [Cell.columns_hold_iff, cells, List.forall_mem_map, part.drawn_iff]
  exact Cell.forall_spread_iff

theorem holds_iff (part : Part) (sound : ∀ value ∈ document.lookup part.name, value.Sound) :
    part.column.Holds {} document config ↔
      (∀ value, document.lookup part.name = some value → SectionFits part.known value) ∧
        FromSection document part.name part.known (part.DrawnFrom · (part.get config)) := by
  have read_iff := record_ok_iff part.lawful.distinct part.title (part.get {})
  rw [part.cells_names] at read_iff
  unfold Column.Holds FromSection
  simp only [column]
  cases found : document.lookup part.name with
  | none =>
    constructor
    · intro kept
      have same : part.get config = part.get {} := kept
      exact ⟨nofun, [], .absent, (part.holds_each_iff _).mp fun _ _ => same ▸ rfl⟩
    · intro drawn
      obtain ⟨_, given, entries, each⟩ := drawn
      cases entries
      exact part.lawful.whole _ _ ((part.holds_each_iff _).mpr each)
  | some value =>
    have fit : value.Sound := sound value found
    have named_iff {given : Fields} (entries : Entries (part.known.map (·.1)) (some value) given)
        (held : part.Settings) :=
      @Column.named_ok_iff _ _ (part.get {}) held given part.lawful (entries.sound part.distinct fit).distinct
    constructor
    · intro read
      obtain ⟨given, entries, named⟩ := (read_iff value _).mp read
      refine ⟨fun other same => ?_, given, entries, ?_⟩
      · cases same
        exact (part.accepts_iff fit).mp ⟨_, read⟩
      · exact (part.holds_each_iff _).mp ((named_iff entries _).mp named).2
    · intro drawn
      obtain ⟨accepted, given, entries, each⟩ := drawn
      obtain ⟨other, read⟩ := (part.accepts_iff fit).mpr (accepted value rfl)
      obtain ⟨same, alike, named⟩ := (read_iff value other).mp read
      obtain rfl := entries.unique alike
      have known := ((named_iff entries _).mp named).1
      have drawn := (named_iff entries _).mpr ⟨known, (part.holds_each_iff _).mpr each⟩
      exact (read_iff value _).mpr ⟨same, entries, drawn⟩

end Part

end TestbedWatchdog.Config
