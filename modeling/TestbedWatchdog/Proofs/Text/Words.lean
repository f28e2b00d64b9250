import Mathlib.Data.Bool.AllAny
import Mathlib.Data.List.TakeDrop
import Mathlib.Data.List.TakeWhile
import TestbedWatchdog.Text.Blank

namespace TestbedWatchdog.Text

structure IsWord (text : List Char) : Prop where
  some : text ≠ []
  ink : ∀ c ∈ text, isBlank c = false

instance (text : List Char) : Decidable (IsWord text) :=
  decidable_of_iff (text ≠ [] ∧ (text.all fun c => isBlank c = false) = true)
    ⟨fun parts => ⟨parts.1, List.all_iff_forall_prop.mp parts.2⟩,
      fun word => ⟨word.some, List.all_iff_forall_prop.mpr word.ink⟩⟩

structure IsGap (text : List Char) : Prop where
  some : text ≠ []
  blank : ∀ c ∈ text, isBlank c = true

theorem isInk_iff {c : Char} : isInk c = true ↔ isBlank c = false := by
  simp [isInk]

theorem not_isInk_iff {c : Char} : isInk c = false ↔ isBlank c = true := by
  simp [isInk]

theorem IsWord.isInk (word : IsWord text) : ∀ c ∈ text, isInk c = true :=
  fun c present => isInk_iff.mpr (word.ink c present)

theorem IsWord.stops_blanks (word : IsWord text) : ∀ c ∈ (text ++ rest).head?, isBlank c = false := by
  obtain ⟨first, later, rfl⟩ := List.exists_cons_of_ne_nil word.some
  simpa using word.ink first List.mem_cons_self

theorem IsGap.stops_ink (gap : IsGap text) : ∀ c ∈ (text ++ rest).head?, isInk c = false := by
  obtain ⟨first, later, rfl⟩ := List.exists_cons_of_ne_nil gap.some
  simpa [not_isInk_iff] using gap.blank first List.mem_cons_self

theorem span_eq_iff {fits : α → Bool} {text front back : List α} :
    text.span fits = (front, back) ↔
      text = front ++ back ∧ (∀ c ∈ front, fits c = true) ∧ ∀ c ∈ back.head?, fits c = false := by
  rw [List.span_eq_takeWhile_dropWhile, Prod.mk.injEq]
  constructor
  · intro cut
    obtain ⟨rfl, rfl⟩ := cut
    refine ⟨List.takeWhile_append_dropWhile.symm, fun c taken => List.mem_takeWhile_imp taken, ?_⟩
    intro c first
    have stops := List.head?_dropWhile_not fits text
    rw [Option.mem_def.mp first] at stops
    exact stops
  · intro parts
    obtain ⟨rfl, fit, stops⟩ := parts
    have rest : back.takeWhile fits = [] ∧ back.dropWhile fits = back := by
      cases back with
      | nil => exact ⟨rfl, rfl⟩
      | cons c later => simp [stops c rfl]
    rw [List.takeWhile_append_of_pos fit, List.dropWhile_append_of_pos fit, rest.1, rest.2]
    exact ⟨List.append_nil front, rfl⟩

theorem cut_unique {fits : α → Bool} {front back other behind : List α}
    (same : other ++ behind = front ++ back)
    (fit : ∀ c ∈ front, fits c = true) (stops : ∀ c ∈ back.head?, fits c = false)
    (otherFit : ∀ c ∈ other, fits c = true) (otherStops : ∀ c ∈ behind.head?, fits c = false) :
    other = front ∧ behind = back := by
  have cut := span_eq_iff.mpr ⟨rfl, fit, stops⟩
  have otherCut := span_eq_iff.mpr ⟨rfl, otherFit, otherStops⟩
  rw [same, cut, Prod.mk.injEq] at otherCut
  exact ⟨otherCut.1.symm, otherCut.2.symm⟩

theorem word_eq_iff : word text = (front, back) ↔
    text = front ++ back ∧ (∀ c ∈ front, isBlank c = false) ∧ ∀ c ∈ back.head?, isBlank c = true := by
  unfold word
  rw [span_eq_iff]
  simp [isInk]

theorem blanks?_eq_some_iff : blanks? text = some back ↔
    ∃ gap, gap ≠ [] ∧ (∀ c ∈ gap, isBlank c = true) ∧ text = gap ++ back ∧
      ∀ c ∈ back.head?, isBlank c = false := by
  cases text with
  | nil =>
    constructor
    · intro none
      cases none
    · intro parts
      obtain ⟨gap, present, _, whole, _⟩ := parts
      exact absurd (List.append_eq_nil_iff.mp whole.symm).1 present
  | cons first rest =>
    simp only [blanks?, Option.ite_none_right_eq_some, Option.some.injEq]
    constructor
    · intro taken
      obtain ⟨blank, rfl⟩ := taken
      have cut : (first :: rest).span isBlank =
          (first :: rest.takeWhile isBlank, rest.dropWhile isBlank) := by
        simp [List.span_eq_takeWhile_dropWhile, blank]
      obtain ⟨whole, blanks, stops⟩ := span_eq_iff.mp cut
      exact ⟨_, List.cons_ne_nil _ _, blanks, whole, stops⟩
    · intro parts
      obtain ⟨gap, present, blanks, whole, stops⟩ := parts
      have cut := span_eq_iff.mpr ⟨whole, blanks, stops⟩
      rw [List.span_eq_takeWhile_dropWhile, Prod.mk.injEq] at cut
      obtain ⟨taken, left⟩ := cut
      have blank : isBlank first = true := by
        apply Classical.byContradiction
        intro ink
        apply present
        rw [← taken, List.takeWhile_cons_of_neg ink]
      rw [List.dropWhile_cons_of_pos blank] at left
      exact ⟨blank, left⟩

end TestbedWatchdog.Text
