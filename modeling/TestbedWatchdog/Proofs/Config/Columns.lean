import TestbedWatchdog.Config.Decoding
import TestbedWatchdog.Proofs.Lookup
import TestbedWatchdog.Proofs.Toml.Soundness

namespace TestbedWatchdog.Config
open Toml

structure Column (ρ : Type) where
  name : String
  Held : Type
  read : Value → Except Mismatch Held
  get : ρ → Held
  put : ρ → Held → ρ

namespace Column

def field (column : Column ρ) : Field ρ := Config.field column.name column.read column.put

-- Columns that do not get into each other's way, and that make up the record.
structure Lawful (columns : List (Column ρ)) : Prop where
  distinct : (columns.map (·.name)).Nodup
  own : ∀ column ∈ columns, ∀ record held, column.get (column.put record held) = held
  other : ∀ one ∈ columns, ∀ two ∈ columns, one.name ≠ two.name →
    ∀ record held, one.get (two.put record held) = one.get record
  whole : ∀ one two, (∀ column ∈ columns, column.get one = column.get two) → one = two

def Holds (start : ρ) (given : Fields) (record : ρ) (column : Column ρ) : Prop :=
  match given.lookup column.name with
  | some value => column.read value = .ok (column.get record)
  | none => column.get record = column.get start

variable {columns : List (Column ρ)} {column : Column ρ} {start record : ρ} {given : Fields}
  {name : String} {value : Value}

theorem find?_named (distinct : (columns.map (·.name)).Nodup) (present : column ∈ columns) :
    (columns.map field).find? (fun field => field.name == column.name) = some column.field := by
  induction columns with
  | nil => cases present
  | cons first rest ih =>
    obtain ⟨once, tail⟩ := List.nodup_cons.mp distinct
    rcases List.mem_cons.mp present with rfl | later
    · simp [field, Config.field]
    · have different : first.name ≠ column.name := fun same =>
        once (List.mem_map.mpr ⟨column, later, same.symm⟩)
      rw [List.map_cons, List.find?_cons_of_neg (by simpa [field, Config.field] using different)]
      exact ih tail later

theorem find?_unknown (unknown : ∀ column ∈ columns, column.name ≠ name) :
    (columns.map field).find? (fun field => field.name == name) = none := by
  simpa [field, Config.field] using unknown

theorem named_known (distinct : (columns.map (·.name)).Nodup) (present : column ∈ columns) :
    named (columns.map field) start ((column.name, value) :: given) =
      match column.read value with
      | .ok held => named (columns.map field) (column.put start held) given
      | .error mismatch => .error mismatch := by
  rw [named, List.foldlM_cons, find?_named distinct present]
  simp only [field, Config.field]
  cases column.read value <;> rfl

theorem named_unknown (unknown : ∀ column ∈ columns, column.name ≠ name) :
    named (columns.map field) start ((name, value) :: given) ≠ .ok record := by
  rw [named, List.foldlM_cons, find?_unknown unknown]
  exact nofun

-- A value that is read changes its own column, which no later entry names, and no other.
theorem holds_put (lawful : Lawful columns) (present : column ∈ columns)
    (once : column.name ∉ given.map (·.1)) (read : column.read value = .ok held)
    (other : Column ρ) (among : other ∈ columns) :
    Holds (column.put start held) given record other ↔
      Holds start ((column.name, value) :: given) record other := by
  by_cases same : other.name = column.name
  · obtain rfl : other = column := List.inj_on_of_nodup_map lawful.distinct among present same
    have absent : given.lookup other.name = none := HostTable.lookup_none_iff.mpr once
    simp [Holds, absent, read, lawful.own other among, eq_comm]
  · have passed := lawful.other other among column present same start held
    simp [Holds, HostTable.lookup_cons_eq, same, passed]

theorem named_ok_iff (lawful : Lawful columns) (distinct : (given.map (·.1)).Nodup) :
    named (columns.map field) start given = .ok record ↔
      (∀ entry ∈ given, ∃ column ∈ columns, column.name = entry.1) ∧
        ∀ column ∈ columns, Holds start given record column := by
  induction given generalizing start with
  | nil =>
    constructor
    · intro unchanged
      cases unchanged
      exact ⟨List.forall_mem_nil _, fun _ _ => rfl⟩
    · intro held
      have same := lawful.whole record start held.2
      rw [same]
      rfl
  | cons entry rest ih =>
    obtain ⟨name, value⟩ := entry
    obtain ⟨once, tail⟩ := List.nodup_cons.mp distinct
    by_cases known : ∃ column ∈ columns, column.name = name
    · obtain ⟨column, present, rfl⟩ := known
      rw [named_known lawful.distinct present]
      cases read : column.read value with
      | error mismatch =>
        refine iff_of_false nofun fun held => ?_
        have own := held.2 column present
        simp [Holds, read] at own
      | ok held =>
        simp only [ih tail, List.forall_mem_cons]
        refine and_congr ?_ ?_
        · exact (and_iff_right ⟨column, present, rfl⟩).symm
        · exact forall₂_congr (holds_put lawful present once read)
    · refine iff_of_false (named_unknown ?_) fun held => known (held.1 (name, value) List.mem_cons_self)
      exact fun column present same => known ⟨column, present, same⟩

theorem named_accepts_iff (distinct : (columns.map (·.name)).Nodup) :
    (∃ record, named (columns.map field) start given = .ok record) ↔
      ∀ entry ∈ given, ∃ column ∈ columns, column.name = entry.1 ∧ ∃ held, column.read entry.2 = .ok held := by
  induction given generalizing start with
  | nil => exact iff_of_true ⟨start, rfl⟩ (List.forall_mem_nil _)
  | cons entry rest ih =>
    obtain ⟨name, value⟩ := entry
    rw [List.forall_mem_cons]
    by_cases known : ∃ column ∈ columns, column.name = name
    · obtain ⟨column, present, rfl⟩ := known
      rw [named_known distinct present]
      have only : (∃ other ∈ columns, other.name = column.name ∧ ∃ held, other.read value = .ok held) ↔
          ∃ held, column.read value = .ok held := by
        constructor
        · intro found
          obtain ⟨other, among, same, held⟩ := found
          obtain rfl : other = column := List.inj_on_of_nodup_map distinct among present same
          exact held
        · intro held
          exact ⟨column, present, rfl, held⟩
      rw [only]
      cases read : column.read value with
      | error mismatch => simp
      | ok held => simp [ih]
    · refine iff_of_false ?_ fun found => ?_
      · rintro ⟨record, taken⟩
        exact named_unknown (fun column present same => known ⟨column, present, same⟩) taken
      · obtain ⟨column, present, same, _⟩ := found.1
        exact known ⟨column, present, same⟩

theorem positional_eq_named (distinct : (columns.map (·.name)).Nodup) (items : List Value) :
    positional (columns.map field) start items =
      named (columns.map field) start ((columns.map (·.name)).zip items) := by
  have along : ∀ suffix : List (Column ρ), (∀ column ∈ suffix, column ∈ columns) → ∀ start,
      ((suffix.map field).zip items).foldlM (fun record entry => entry.1.store entry.2 record) start =
        named (columns.map field) start ((suffix.map (·.name)).zip items) := by
    induction items with
    | nil => simp [named]
    | cons item rest ih =>
      intro suffix among start
      cases suffix with
      | nil => rfl
      | cons column later =>
        obtain ⟨present, others⟩ := List.forall_mem_cons.mp among
        simp only [List.map_cons, List.zip_cons_cons, List.foldlM_cons]
        rw [named_known distinct present]
        simp only [field, Config.field]
        cases column.read item with
        | error mismatch => rfl
        | ok held => exact ih later others (column.put start held)
  exact along columns (fun _ present => present) start

end Column

-- The named values of a section: those of a table, or the elements of an array under the names in their
-- order, as far as both go.
inductive Entries (names : List String) : Option Value → Fields → Prop
  | absent : Entries names none []
  | table : Entries names (some (.table given)) given
  | array : Entries names (some (.array items)) (names.zip items)

namespace Entries

variable {names : List String} {section? : Option Value} {given other : Fields} {value : Value}

theorem unique (one : Entries names section? given) (two : Entries names section? other) : other = given := by
  cases one <;> cases two <;> rfl

theorem nodup_zip (fit : names.Nodup) (items : List Value) : ((names.zip items).map (·.1)).Nodup := by
  rw [List.zip_eq_zip_take_min, List.map_fst_zip (by simp)]
  exact fit.sublist (List.take_sublist _ _)

theorem sound (entries : Entries names (some value) given) (fit : names.Nodup) (sound : value.Sound) :
    (Value.table given).Sound := by
  cases entries with
  | table => exact sound
  | array =>
    cases sound with
    | array each =>
      exact .table (nodup_zip fit _) fun field present => each field.2 (List.of_mem_zip present).2

end Entries

theorem record_ok_iff {columns : List (Column ρ)} (distinct : (columns.map (·.name)).Nodup) (title : String)
    (start : ρ) (value : Value) (held : ρ) :
    record title (columns.map Column.field) start value = .ok held ↔
      ∃ given, Entries (columns.map (·.name)) (some value) given ∧
        named (columns.map Column.field) start given = .ok held := by
  constructor
  · intro read
    cases value with
    | table given => exact ⟨given, .table, read⟩
    | array items => exact ⟨_, .array, (Column.positional_eq_named distinct items).symm.trans read⟩
    | text content => cases read
    | integer number => cases read
    | real number => cases read
    | boolean flag => cases read
    | moment => cases read
  · intro read
    obtain ⟨given, entries, named⟩ := read
    cases entries with
    | table => exact named
    | array => exact (Column.positional_eq_named distinct _).trans named

end TestbedWatchdog.Config
