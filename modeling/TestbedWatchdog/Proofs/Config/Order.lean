import TestbedWatchdog.Proofs.Config.Kinds

namespace TestbedWatchdog.Toml

-- A table is known by its look-ups, an array by its elements in their order.
inductive Value.Alike : Value → Value → Prop
  | same : Alike one one
  | array (length : items.length = others.length)
      (each : ∀ (i : Nat) one two, items[i]? = some one → others[i]? = some two → Alike one two) :
      Alike (.array items) (.array others)
  | table (known : ∀ name, fields.lookup name = none ↔ others.lookup name = none)
      (each : ∀ name one two, fields.lookup name = some one → others.lookup name = some two → Alike one two) :
      Alike (.table fields) (.table others)

namespace Value.Alike

theorem symm {one two : Value} (alike : one.Alike two) : two.Alike one := by
  induction alike with
  | same => exact .same
  | array length _ ih => exact .array length.symm fun i one two here there => ih i two one there here
  | table known _ ih =>
    exact .table (fun name => (known name).symm) fun name one two here there => ih name two one there here

theorem fields_known {fields others : Fields} (alike : (Value.table fields).Alike (.table others))
    (name : String) : fields.lookup name = none ↔ others.lookup name = none := by
  cases alike with
  | same => exact .rfl
  | table known _ => exact known name

theorem fields_each {fields others : Fields} (alike : (Value.table fields).Alike (.table others))
    (here : fields.lookup name = some one) (there : others.lookup name = some two) : one.Alike two := by
  cases alike with
  | same =>
    cases here.symm.trans there
    exact .same
  | table _ each => exact each name one two here there

theorem of_perm {fields others : Fields} (distinct : (fields.map (·.1)).Nodup)
    (perm : (fields.map (·.1)).Perm (others.map (·.1)))
    (each : ∀ one ∈ fields, ∀ two ∈ others, one.1 = two.1 → one.2.Alike two.2) :
    (Value.table fields).Alike (.table others) := by
  apply Value.Alike.table
  · intro name
    rw [HostTable.lookup_none_iff, HostTable.lookup_none_iff, perm.mem_iff]
  · intro name one two here there
    have member := (HostTable.lookup_of_nodup distinct).mp here
    have otherMember := (HostTable.lookup_of_nodup (perm.nodup_iff.mp distinct)).mp there
    exact each (name, one) member (name, two) otherMember rfl

theorem permuted {fields others : Fields} (distinct : (fields.map (·.1)).Nodup) (perm : fields.Perm others) :
    (Value.table fields).Alike (.table others) := by
  refine of_perm distinct (perm.map _) fun one first two second same => ?_
  obtain rfl : one = two := List.inj_on_of_nodup_map distinct first (perm.mem_iff.mpr second) same
  exact .same

end Value.Alike

end TestbedWatchdog.Toml

namespace TestbedWatchdog.Config
open Toml

def Unordered (read : Value → Except Mismatch α) : Prop :=
  ∀ one two held, one.Sound → two.Sound → one.Alike two → read one = .ok held → read two = .ok held

-- What a field holds has no table in it.
theorem Kind.alike_shown (kind : Kind) (held : kind.Held) {value : Value}
    (alike : (kind.shown held).Alike value) : value = kind.shown held := by
  cases kind with
  | word64 => cases alike; rfl
  | word32 => cases alike; rfl
  | flag => cases alike; rfl
  | text => cases alike; rfl
  | texts =>
    cases alike with
    | same => rfl
    | @array _ others length each =>
      refine congrArg Value.array (List.ext_getElem length.symm fun i here there => ?_)
      have element := each i _ _ (List.getElem?_eq_getElem there) (List.getElem?_eq_getElem here)
      rw [List.getElem_map] at element ⊢
      generalize others[i] = other at element ⊢
      cases element
      rfl

theorem Kind.read_unordered (kind : Kind) : Unordered kind.read := by
  intro one two held _ _ alike read
  rw [kind.read_ok_iff] at read ⊢
  subst read
  exact kind.alike_shown held alike

section Zipped

variable {names : List String} {items others : List Value} {name : String} {value : Value}

theorem exists_getElem? {i : Nat} (length : items.length = others.length) (here : items[i]? = some value) :
    ∃ other, others[i]? = some other := by
  obtain ⟨bound, _⟩ := List.getElem?_eq_some_iff.mp here
  exact ⟨others[i], List.getElem?_eq_getElem (length ▸ bound)⟩

theorem lookup_zip (fit : names.Nodup) :
    (names.zip items).lookup name = some value ↔
      ∃ i : Nat, names[i]? = some name ∧ items[i]? = some value := by
  rw [HostTable.lookup_of_nodup (Entries.nodup_zip fit items), List.mem_iff_getElem?]
  simp only [List.getElem?_zip_eq_some]

theorem lookup_zip_none (fit : names.Nodup) (length : items.length = others.length)
    (absent : (names.zip others).lookup name = none) : (names.zip items).lookup name = none := by
  cases found : (names.zip items).lookup name with
  | none => rfl
  | some value =>
    obtain ⟨i, named, here⟩ := (lookup_zip fit).mp found
    obtain ⟨other, there⟩ := exists_getElem? length here
    have known := (lookup_zip fit).mpr ⟨i, named, there⟩
    cases absent.symm.trans known

end Zipped

theorem Entries.alike {names : List String} {one two : Value} {given : Fields} (fit : names.Nodup)
    (same : one.Alike two) (entries : Entries names (some one) given) :
    ∃ other, Entries names (some two) other ∧ (Value.table given).Alike (.table other) := by
  cases same with
  | same => exact ⟨given, entries, .same⟩
  | table known each =>
    cases entries
    exact ⟨_, .table, .table known each⟩
  | array length each =>
    cases entries
    refine ⟨_, .array, .table ?_ ?_⟩
    · exact fun name => ⟨lookup_zip_none fit length.symm, lookup_zip_none fit length⟩
    · intro name one two here there
      obtain ⟨i, first, here⟩ := (lookup_zip fit).mp here
      obtain ⟨j, second, there⟩ := (lookup_zip fit).mp there
      obtain ⟨bound, _⟩ := List.getElem?_eq_some_iff.mp first
      obtain rfl : i = j := (List.getElem?_inj bound fit).mp (first.trans second.symm)
      exact each i one two here there

section Reading

variable {columns : List (Column ρ)} {start held : ρ} {given other : Fields}

theorem named_unordered (lawful : Column.Lawful columns) (each : ∀ column ∈ columns, Unordered column.read)
    (sound : (Value.table given).Sound) (otherSound : (Value.table other).Sound)
    (alike : (Value.table given).Alike (.table other))
    (read : named (columns.map Column.field) start given = .ok held) :
    named (columns.map Column.field) start other = .ok held := by
  rw [Column.named_ok_iff lawful sound.distinct] at read
  rw [Column.named_ok_iff lawful otherSound.distinct]
  obtain ⟨known, holds⟩ := read
  constructor
  · intro entry present
    have there := (HostTable.lookup_of_nodup otherSound.distinct).mpr present
    cases here : given.lookup entry.1 with
    | none => cases ((alike.fields_known _).mp here).symm.trans there
    | some value => exact known (entry.1, value) ((HostTable.lookup_of_nodup sound.distinct).mp here)
  · intro column among
    have own := holds column among
    unfold Column.Holds at own ⊢
    cases here : given.lookup column.name with
    | none =>
      rw [here] at own
      rw [(alike.fields_known _).mp here]
      exact own
    | some one =>
      rw [here] at own
      cases there : other.lookup column.name with
      | none => cases ((alike.fields_known _).mpr there).symm.trans here
      | some two =>
        exact each column among one two _ (sound.lookup _ one here) (otherSound.lookup _ two there)
          (alike.fields_each here there) own

theorem record_unordered (lawful : Column.Lawful columns) (each : ∀ column ∈ columns, Unordered column.read)
    (title : String) (start : ρ) : Unordered (record title (columns.map Column.field) start) := by
  intro one two held sound otherSound alike read
  obtain ⟨given, entries, named⟩ := (record_ok_iff lawful.distinct title start one held).mp read
  obtain ⟨other, others, same⟩ := entries.alike lawful.distinct alike
  refine (record_ok_iff lawful.distinct title start two held).mpr ⟨other, others, ?_⟩
  exact named_unordered lawful each (entries.sound lawful.distinct sound)
    (others.sound lawful.distinct otherSound) same named

theorem Cell.columns_unordered (cells : List (Cell ρ)) : ∀ column ∈ Cell.columns cells, Unordered column.read := by
  intro column among
  obtain ⟨cell, _, rfl⟩ := List.mem_map.mp among
  exact cell.kind.read_unordered

end Reading

end TestbedWatchdog.Config
