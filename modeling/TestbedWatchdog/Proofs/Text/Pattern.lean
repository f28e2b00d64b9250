import TestbedWatchdog.Proofs.Text.Words

namespace TestbedWatchdog.Text

inductive Piece where
  | one (fits : Char → Bool)
  | atLeastOne (fits : Char → Bool)
  | anyNumber (fits : Char → Bool)

def runs (fits : Char → Bool) : List Char → List (List Char × List Char)
  | [] => [([], [])]
  | c :: rest =>
    (if fits c then (runs fits rest).map fun cut => (c :: cut.1, cut.2) else []) ++ [([], c :: rest)]

namespace Piece

def cuts : Piece → List Char → List (List Char × List Char)
  | one _, [] => []
  | one fits, c :: rest => if fits c then [([c], rest)] else []
  | atLeastOne fits, text => (runs fits text).filter fun cut => !cut.1.isEmpty
  | anyNumber fits, text => runs fits text

def Takes : Piece → List Char → List Char → Prop
  | one fits, front, _ => ∃ c, front = [c] ∧ fits c = true
  | atLeastOne fits, front, _ => front ≠ [] ∧ ∀ c ∈ front, fits c = true
  | anyNumber fits, front, _ => ∀ c ∈ front, fits c = true

-- It may take this front, and no more of what is behind it.
def Fills : Piece → List Char → List Char → Prop
  | one fits, front, _ => ∃ c, front = [c] ∧ fits c = true
  | atLeastOne fits, front, back =>
    front ≠ [] ∧ (∀ c ∈ front, fits c = true) ∧ ∀ c ∈ back.head?, fits c = false
  | anyNumber fits, front, back => (∀ c ∈ front, fits c = true) ∧ ∀ c ∈ back.head?, fits c = false

end Piece

-- A piece takes as many characters as it can. Where the pieces behind it find no way on it gives characters
-- back, one at a time; so the first way is the match.
def ways : List Piece → List Char → List (List (List Char))
  | [], _ => [[]]
  | piece :: later, text => (piece.cuts text).flatMap fun cut => (ways later cut.2).map (cut.1 :: ·)

inductive Laid (takes : Piece → List Char → List Char → Prop) :
    List Piece → List (List Char) → List Char → Prop
  | done : Laid takes [] [] text
  | next (taken : takes piece front back) (rest : Laid takes later way back) :
      Laid takes (piece :: later) (front :: way) (front ++ back)

variable {fits : Char → Bool} {text front back : List Char} {piece : Piece} {pieces : List Piece}
  {way : List (List Char)}

theorem Laid.of_cons (laid : Laid takes (piece :: pieces) way text) : ∃ front back rest,
    way = front :: rest ∧ text = front ++ back ∧ takes piece front back ∧ Laid takes pieces rest back := by
  cases laid with
  | next taken rest => exact ⟨_, _, _, rfl, rfl, taken, rest⟩

theorem Laid.of_nil (laid : Laid takes [] way text) : way = [] := by
  cases laid with
  | done => rfl

theorem mem_runs_cons {first : Char} : (front, back) ∈ runs fits (first :: text) ↔
    (fits first = true ∧ ∃ later, front = first :: later ∧ (later, back) ∈ runs fits text) ∨
      front = [] ∧ back = first :: text := by
  rw [runs, List.mem_append, List.mem_singleton, Prod.mk.injEq]
  refine or_congr_left ?_
  split
  · rename_i fit
    simp only [List.mem_map, Prod.exists, Prod.mk.injEq, fit, true_and]
    constructor
    · rintro ⟨later, behind, found, rfl, rfl⟩
      exact ⟨later, rfl, found⟩
    · rintro ⟨later, rfl, found⟩
      exact ⟨later, back, found, rfl, rfl⟩
  · rename_i misfit
    simp [misfit]

theorem mem_runs : (front, back) ∈ runs fits text ↔ text = front ++ back ∧ ∀ c ∈ front, fits c = true := by
  induction text generalizing front with
  | nil =>
    constructor
    · intro found
      cases List.mem_singleton.mp found
      exact ⟨rfl, by simp⟩
    · rintro ⟨whole, _⟩
      obtain ⟨rfl, rfl⟩ := List.append_eq_nil_iff.mp whole.symm
      exact List.mem_singleton_self _
  | cons first rest ih =>
    rw [mem_runs_cons]
    constructor
    · rintro (⟨fit, later, rfl, found⟩ | ⟨rfl, rfl⟩)
      · obtain ⟨rfl, fits⟩ := ih.mp found
        exact ⟨rfl, List.forall_mem_cons.mpr ⟨fit, fits⟩⟩
      · exact ⟨rfl, by simp⟩
    · rintro ⟨whole, fit⟩
      cases front with
      | nil => exact .inr ⟨rfl, whole.symm⟩
      | cons c later =>
        obtain ⟨rfl, rfl⟩ := List.cons_eq_cons.mp whole
        obtain ⟨head, tail⟩ := List.forall_mem_cons.mp fit
        exact .inl ⟨head, later, rfl, ih.mpr ⟨rfl, tail⟩⟩

theorem head?_runs : (runs fits text).head? = some (text.span fits) := by
  rw [List.span_eq_takeWhile_dropWhile]
  induction text with
  | nil => rfl
  | cons c rest ih =>
    by_cases fit : fits c = true
    · simp [runs, fit, ih]
    · simp [runs, fit]

namespace Piece

theorem mem_cuts : (front, back) ∈ piece.cuts text ↔ text = front ++ back ∧ piece.Takes front back := by
  cases piece with
  | one fits =>
    cases text with
    | nil =>
      constructor
      · intro found
        cases found
      · rintro ⟨whole, c, rfl, _⟩
        cases whole
    | cons first rest =>
      simp only [cuts, Takes]
      constructor
      · intro found
        split at found
        · rename_i fit
          cases List.mem_singleton.mp found
          exact ⟨rfl, first, rfl, fit⟩
        · cases found
      · rintro ⟨whole, c, rfl, fit⟩
        cases whole
        rw [if_pos fit]
        exact List.mem_singleton_self _
  | atLeastOne fits =>
    simp only [cuts, Takes, List.mem_filter, mem_runs]
    simp only [Bool.not_eq_true', List.isEmpty_eq_false_iff]
    constructor
    · rintro ⟨⟨whole, fit⟩, some⟩
      exact ⟨whole, some, fit⟩
    · rintro ⟨whole, some, fit⟩
      exact ⟨⟨whole, fit⟩, some⟩
  | anyNumber fits => exact mem_runs

theorem head?_cuts (filled : piece.Fills front back) :
    (piece.cuts (front ++ back)).head? = some (front, back) := by
  cases piece with
  | one fits =>
    obtain ⟨c, rfl, fit⟩ := filled
    simp [cuts, fit]
  | atLeastOne fits =>
    obtain ⟨some, fit, stops⟩ := filled
    have longest : (runs fits (front ++ back)).head? = _ := head?_runs
    rw [span_eq_iff.mpr ⟨rfl, fit, stops⟩] at longest
    obtain ⟨shorter, all⟩ := List.head?_eq_some_iff.mp longest
    simp [cuts, all, some]
  | anyNumber fits =>
    obtain ⟨fit, stops⟩ := filled
    rw [cuts, head?_runs, span_eq_iff.mpr ⟨rfl, fit, stops⟩]

end Piece

theorem mem_ways : way ∈ ways pieces text ↔ Laid Piece.Takes pieces way text := by
  induction pieces generalizing way text with
  | nil =>
    constructor
    · intro found
      cases List.mem_singleton.mp found
      exact .done
    · intro laid
      obtain rfl := laid.of_nil
      exact List.mem_singleton_self _
  | cons piece later ih =>
    simp only [ways, List.mem_flatMap, List.mem_map]
    constructor
    · rintro ⟨⟨front, back⟩, cut, rest, found, rfl⟩
      obtain ⟨rfl, taken⟩ := Piece.mem_cuts.mp cut
      exact .next taken (ih.mp found)
    · intro laid
      obtain ⟨front, back, rest, rfl, rfl, taken, laid⟩ := laid.of_cons
      exact ⟨(front, back), Piece.mem_cuts.mpr ⟨rfl, taken⟩, rest, ih.mpr laid, rfl⟩

theorem head?_ways (laid : Laid Piece.Fills pieces way text) : (ways pieces text).head? = some way := by
  induction laid with
  | done => rfl
  | next filled _ ih =>
    obtain ⟨shorter, all⟩ := List.head?_eq_some_iff.mp (Piece.head?_cuts filled)
    simp [ways, all, List.head?_append, ih]

def literal (word : List Char) : List Piece := word.map fun c => .one (· = c)

theorem laid_literal {word : List Char} (laid : Laid Piece.Fills pieces way text) :
    Laid Piece.Fills (literal word ++ pieces) (word.map ([·]) ++ way) (word ++ text) := by
  induction word with
  | nil => exact laid
  | cons c rest ih => exact .next ⟨c, rfl, decide_eq_true rfl⟩ ih

theorem Laid.of_literal {word : List Char} (laid : Laid Piece.Takes (literal word ++ pieces) way text) :
    ∃ behind rest, way = word.map ([·]) ++ rest ∧ text = word ++ behind ∧
      Laid Piece.Takes pieces rest behind := by
  induction word generalizing way text with
  | nil => exact ⟨text, way, rfl, rfl, laid⟩
  | cons c later ih =>
    obtain ⟨_, _, _, rfl, rfl, ⟨first, rfl, fit⟩, tail⟩ := laid.of_cons
    obtain ⟨behind, rest, rfl, rfl, others⟩ := ih tail
    obtain rfl := of_decide_eq_true fit
    exact ⟨behind, rest, rfl, rfl, others⟩

end TestbedWatchdog.Text
