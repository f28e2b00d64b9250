import Mathlib.Data.Set.List
import TestbedWatchdog.Proofs.Config.Columns

namespace TestbedWatchdog.Config
open Toml

inductive Kind where
  | word64
  | word32
  | flag
  | text
  | texts

namespace Kind

abbrev Held : Kind → Type
  | word64 => UInt64
  | word32 => UInt32
  | flag => Bool
  | text => String
  | texts => List String

def shown : (kind : Kind) → kind.Held → Value
  | word64, n => .integer n.toNat
  | word32, n => .integer n.toNat
  | flag, held => .boolean held
  | text, content => .text content
  | texts, contents => .array (contents.map .text)

-- An integer of a document has 64 bits and a sign, so no bound is needed beyond those of the document.
inductive Fits : Kind → Value → Prop
  | word64 (natural : 0 ≤ n) : Fits .word64 (.integer n)
  | word32 (natural : 0 ≤ n) (small : n ≤ 0xFFFFFFFF) : Fits .word32 (.integer n)
  | flag : Fits .flag (.boolean held)
  | text : Fits .text (.text content)
  | texts (each : ∀ item ∈ items, ∃ content, item = .text content) : Fits .texts (.array items)

def read : (kind : Kind) → Value → Except Mismatch kind.Held
  | word64 => Config.word64
  | word32 => Config.word32
  | flag => Config.boolean
  | text => Config.text
  | texts => Config.texts

structure Words (size : Nat) (hold : Nat → α) (toNat : α → Nat) : Prop where
  kept : ∀ n < size, toNat (hold n) = n
  same : ∀ held, hold (toNat held) = held
  below : ∀ held, toNat held < size

theorem words64 : Words UInt64.size UInt64.ofNat UInt64.toNat :=
  ⟨fun _ => UInt64.toNat_ofNat_of_lt', fun _ => UInt64.ofNat_toNat, UInt64.toNat_lt⟩

theorem words32 : Words UInt32.size UInt32.ofNat UInt32.toNat :=
  ⟨fun _ => UInt32.toNat_ofNat_of_lt', fun _ => UInt32.ofNat_toNat, UInt32.toNat_lt⟩

namespace Words

variable {size : Nat} {hold : Nat → α} {toNat : α → Nat}

theorem toNat_hold (words : Words size hold toNat) {n : Int} (natural : 0 ≤ n) (small : n < size) :
    (toNat (hold n.toNat) : Int) = n := by
  have below : n.toNat < size := by omega
  rw [words.kept _ below]
  exact Int.toNat_of_nonneg natural

theorem number_ok_iff (words : Words size hold toNat) {expected : Expected} {value : Value} {held : α} :
    number size expected hold value = .ok held ↔ value = .integer (toNat held) := by
  cases value with
  | integer n =>
    rw [number, Value.integer.injEq]
    constructor
    · intro read
      split at read
      · rename_i within
        cases read
        exact (words.toNat_hold within.1 within.2).symm
      · cases read
    · intro same
      subst same
      have within : 0 ≤ (toNat held : Int) ∧ (toNat held : Int) < size :=
        ⟨Int.natCast_nonneg _, Int.ofNat_lt.mpr (words.below held)⟩
      rw [if_pos within, Int.toNat_natCast, words.same]
  | _ => simp [number]

end Words

theorem text_ok_iff {value : Value} : Config.text value = .ok content ↔ value = .text content := by
  cases value <;> simp [Config.text]

theorem mapM_text_ok_iff {items : List Value} :
    items.mapM Config.text = .ok contents ↔ items = contents.map .text := by
  induction items generalizing contents with
  | nil => cases contents <;> simp [pure, Except.pure]
  | cons item rest ih =>
    rw [List.mapM_cons]
    constructor
    · intro read
      cases first : Config.text item with
      | error mismatch =>
        rw [first] at read
        cases read
      | ok content =>
        cases others : rest.mapM Config.text with
        | error mismatch =>
          rw [first, others] at read
          cases read
        | ok later =>
          rw [first, others] at read
          cases read
          rw [text_ok_iff.mp first, ih.mp others]
          rfl
    · intro shows
      cases contents with
      | nil => cases shows
      | cons content later =>
        obtain ⟨first, others⟩ := List.cons.inj shows
        rw [text_ok_iff.mpr first, ih.mpr others]
        rfl

theorem read_ok_iff (kind : Kind) (value : Value) (held : kind.Held) :
    kind.read value = .ok held ↔ value = kind.shown held := by
  cases kind with
  | word64 => exact words64.number_ok_iff
  | word32 => exact words32.number_ok_iff
  | flag => cases value <;> simp [read, Config.boolean, shown]
  | text => exact text_ok_iff
  | texts => cases value <;> simp [read, Config.texts, shown, mapM_text_ok_iff]

theorem fits_shown (kind : Kind) (held : kind.Held) : kind.Fits (kind.shown held) := by
  cases kind with
  | word64 => exact .word64 (Int.natCast_nonneg _)
  | word32 =>
    have bound := UInt32.toNat_lt held
    exact .word32 (Int.natCast_nonneg _) (by omega)
  | flag => exact .flag
  | text => exact .text
  | texts =>
    apply Fits.texts
    intro item present
    obtain ⟨content, _, rfl⟩ := List.mem_map.mp present
    exact ⟨content, rfl⟩

theorem Fits.shows {value : Value} (fits : Fits kind value) (sound : value.Sound) :
    ∃ held, value = kind.shown held := by
  cases fits with
  | @word64 n natural =>
    cases sound with
    | integer _ high =>
      have small : n < UInt64.size := high.trans (by decide)
      exact ⟨.ofNat n.toNat, congrArg Value.integer (words64.toNat_hold natural small).symm⟩
  | @word32 n natural bound =>
    have small : n < UInt32.size := Int.lt_add_one_of_le bound
    exact ⟨.ofNat n.toNat, congrArg Value.integer (words32.toNat_hold natural small).symm⟩
  | flag => exact ⟨_, rfl⟩
  | text => exact ⟨_, rfl⟩
  | @texts items each =>
    have lifted : items ∈ Set.range (List.map Value.text) := by
      rw [Set.range_list_map]
      exact fun item present => (each item present).imp fun _ same => same.symm
    obtain ⟨contents, rfl⟩ := lifted
    exact ⟨contents, rfl⟩

theorem reads_iff (kind : Kind) {value : Value} (sound : value.Sound) :
    (∃ held, kind.read value = .ok held) ↔ kind.Fits value := by
  simp only [read_ok_iff]
  constructor
  · intro shows
    obtain ⟨held, rfl⟩ := shows
    exact kind.fits_shown held
  · intro fits
    exact fits.shows sound

end Kind

inductive Drawn (kind : Kind) (given : Fields) (name : String) (default : kind.Held) : kind.Held → Prop
  | given (found : given.lookup name = some (kind.shown held)) : Drawn kind given name default held
  | default (absent : given.lookup name = none) : Drawn kind given name default default

def SectionFits (known : List (String × Kind)) (value : Value) : Prop :=
  ∃ given, Entries (known.map (·.1)) (some value) given ∧
    ∀ field ∈ given, ∃ kind, (field.1, kind) ∈ known ∧ kind.Fits field.2

-- The named values of a section go to that section alone; a section that is not there gives none.
def FromSection (document : Fields) (name : String) (known : List (String × Kind)) (drawn : Fields → Prop) :
    Prop :=
  ∃ given, Entries (known.map (·.1)) (document.lookup name) given ∧ drawn given

structure Cell (ρ : Type) where
  name : String
  kind : Kind
  get : ρ → kind.Held
  put : ρ → kind.Held → ρ

namespace Cell

def column (cell : Cell ρ) : Column ρ := ⟨cell.name, cell.kind.Held, cell.kind.read, cell.get, cell.put⟩

def columns (cells : List (Cell ρ)) : List (Column ρ) := cells.map column

def known (cells : List (Cell ρ)) : List (String × Kind) := cells.map fun cell => (cell.name, cell.kind)

variable {cells : List (Cell ρ)} {start held : ρ} {given : Fields} {value : Value}

theorem columns_names (cells : List (Cell ρ)) : (columns cells).map (·.name) = (known cells).map (·.1) := by
  rw [columns, known, List.map_map, List.map_map]
  rfl

theorem holds_iff (cell : Cell ρ) : cell.column.Holds start given held ↔
    Drawn cell.kind given cell.name (cell.get start) (cell.get held) := by
  unfold Column.Holds column
  constructor
  · intro holds
    split at holds
    · rename_i value found
      exact .given (found.trans (congrArg some ((cell.kind.read_ok_iff _ _).mp holds)))
    · rename_i absent
      have kept : cell.get held = cell.get start := holds
      rw [kept]
      exact .default absent
  · intro drawn
    generalize same : cell.get held = stored at drawn
    cases drawn with
    | given found =>
      rw [found]
      exact (cell.kind.read_ok_iff _ _).mpr (congrArg _ same.symm)
    | default absent =>
      rw [absent]
      exact same

theorem columns_hold_iff : (∀ column ∈ columns cells, column.Holds start given held) ↔
    ∀ cell ∈ cells, Drawn cell.kind given cell.name (cell.get start) (cell.get held) := by
  simp only [columns, List.forall_mem_map, holds_iff]

theorem record_accepts_iff (distinct : ((columns cells).map (·.name)).Nodup) (title : String) (start : ρ)
    (sound : value.Sound) :
    (∃ held, record title ((columns cells).map Column.field) start value = .ok held) ↔
      SectionFits (known cells) value := by
  simp only [record_ok_iff distinct, SectionFits, ← columns_names]
  rw [exists_comm]
  refine exists_congr fun given => ?_
  rw [exists_and_left]
  refine and_congr_right fun entries => ?_
  rw [Column.named_accepts_iff distinct]
  have each := (entries.sound distinct sound).each
  refine forall₂_congr fun field present => ?_
  constructor
  · intro taken
    obtain ⟨_, among, named, reads⟩ := taken
    obtain ⟨cell, member, rfl⟩ := List.mem_map.mp among
    refine ⟨cell.kind, ?_, (cell.kind.reads_iff (each field present)).mp reads⟩
    exact List.mem_map.mpr ⟨cell, member, congrArg (·, cell.kind) named⟩
  · intro fits
    obtain ⟨kind, among, fits⟩ := fits
    obtain ⟨cell, member, same⟩ := List.mem_map.mp among
    obtain ⟨named, rfl⟩ := Prod.mk.inj same
    exact ⟨cell.column, List.mem_map_of_mem member, named, (cell.kind.reads_iff (each field present)).mpr fits⟩

end Cell

end TestbedWatchdog.Config
