import TestbedWatchdog.Proofs.Text.Words
import TestbedWatchdog.Text.Lines

namespace TestbedWatchdog.Text

variable {c : Char} {text front back rest : List Char}

def IsPlain (c : Char) : Prop := c ≠ '\n' ∧ c ≠ '\r'

instance : Decidable (IsPlain c) := inferInstanceAs (Decidable (_ ∧ _))

theorem isPlain_of_ink (ink : isBlank c = false) : IsPlain c := by
  constructor
  · rintro rfl
    exact absurd ink (by decide)
  · rintro rfl
    exact absurd ink (by decide)

theorem IsWord.plain (word : IsWord text) : ∀ c ∈ text, IsPlain c :=
  fun c present => isPlain_of_ink (word.ink c present)

def lead (c : Char) : List (List Char) → List (List Char)
  | [] => [[c]]
  | line :: more => (c :: line) :: more

theorem lines_cons (stays : c ≠ '\n') (kept : c = '\r' → rest.head? ≠ some '\n') :
    lines (c :: rest) = lead c (lines rest) := by
  rw [lines.eq_4 c rest stays]
  · cases lines rest <;> rfl
  · rintro later rfl rfl
    exact kept rfl rfl

theorem lines_ne_nil (some : text ≠ []) : lines text ≠ [] := by
  fun_cases lines text with
  | case1 => exact absurd rfl some
  | case2 rest => exact List.cons_ne_nil _ _
  | case3 rest => exact List.cons_ne_nil _ _
  | case4 c rest => exact List.cons_ne_nil _ _
  | case5 c rest => exact List.cons_ne_nil _ _

theorem complete_of_cons (complete : ∀ last ∈ (c :: rest).getLast?, last = '\n') :
    ∀ last ∈ rest.getLast?, last = '\n' := by
  intro last ends
  rw [List.getLast?_cons, Option.mem_def.mp ends] at complete
  exact complete last rfl

theorem lines_append (complete : ∀ last ∈ front.getLast?, last = '\n') :
    lines (front ++ back) = lines front ++ lines back := by
  fun_induction lines front with
  | case1 => rfl
  | case2 rest ih => exact congrArg _ (ih (complete_of_cons complete))
  | case3 rest ih => exact congrArg _ (ih (complete_of_cons (complete_of_cons complete)))
  | case4 c rest stays _ none =>
    -- such a text is its own last character, which is no newline
    have empty : rest = [] := Classical.byContradiction fun some => lines_ne_nil some none
    subst empty
    exact absurd (complete c rfl) stays
  | case5 c rest stays kept line more cut ih =>
    obtain ⟨first, later, rfl⟩ : ∃ first later, rest = first :: later := by
      refine List.exists_cons_of_ne_nil fun empty => ?_
      subst empty
      cases cut
    have whole : lines (c :: (first :: later ++ back)) = lead c (lines (first :: later ++ back)) := by
      refine lines_cons stays fun carriage newline => ?_
      exact kept later carriage (congrArg (· :: later) (Option.some.inj newline))
    rw [List.cons_append, whole, ih (complete_of_cons complete), cut]
    rfl

theorem lines_single (single : '\n' ∉ text) (some : text ≠ []) : lines text = [text] := by
  induction text with
  | nil => exact absurd rfl some
  | cons c rest ih =>
    obtain ⟨stays, later⟩ := not_or.mp (mt List.mem_cons.mpr single)
    rw [lines_cons (Ne.symm stays) fun _ newline => later (List.mem_of_mem_head? newline)]
    cases rest with
    | nil => rfl
    | cons next more =>
      rw [ih later (List.cons_ne_nil _ _)]
      rfl

-- Nothing that is read off a line has gone over the end of the line.
theorem not_mem_of_mem_lines (present : line ∈ lines text) : '\n' ∉ line := by
  fun_induction lines text generalizing line with
  | case1 => cases present
  | case2 rest ih | case3 rest ih =>
    rcases List.mem_cons.mp present with rfl | later
    · exact List.not_mem_nil
    · exact ih later
  | case4 c rest stays =>
    obtain rfl := List.mem_singleton.mp present
    rw [List.mem_singleton]
    exact Ne.symm stays
  | case5 c rest stays _ first more cut ih =>
    rw [cut] at ih
    rcases List.mem_cons.mp present with rfl | later
    · rw [List.mem_cons, not_or]
      exact ⟨Ne.symm stays, ih List.mem_cons_self⟩
    · exact ih (List.mem_cons_of_mem _ later)

theorem headD_lines_prefix (text : List Char) : (lines text).headD [] <+: text := by
  fun_induction lines text with
  | case1 => exact List.nil_prefix
  | case2 rest => exact List.nil_prefix
  | case3 rest => exact List.nil_prefix
  | case4 c rest => exact List.cons_prefix_cons.mpr ⟨rfl, List.nil_prefix⟩
  | case5 c rest _ _ line more cut ih =>
    rw [cut] at ih
    exact List.cons_prefix_cons.mpr ⟨rfl, ih⟩

theorem head?_headD_lines : ∀ c ∈ ((lines text).headD []).head?, c ∈ text.head? := by
  intro c first
  obtain ⟨behind, whole⟩ := headD_lines_prefix text
  rw [← whole, List.head?_append, Option.mem_def.mp first]
  rfl

theorem lines_plain_append (plain : ∀ c ∈ front, IsPlain c) (some : front ≠ []) :
    lines (front ++ back) = (front ++ (lines back).headD []) :: (lines back).tail := by
  induction front with
  | nil => exact absurd rfl some
  | cons c rest ih =>
    obtain ⟨stays, kept⟩ := plain c List.mem_cons_self
    rw [List.cons_append, lines_cons stays fun carriage => absurd carriage kept]
    cases rest with
    | nil =>
      rw [List.nil_append]
      cases lines back <;> rfl
    | cons next later =>
      rw [ih (fun c present => plain c (List.mem_cons_of_mem _ present)) (List.cons_ne_nil _ _)]
      rfl

theorem lines_flatMap_newline {rows : List (List Char)} (plain : ∀ row ∈ rows, ∀ c ∈ row, IsPlain c) :
    lines (rows.flatMap (· ++ ['\n'])) = rows := by
  induction rows with
  | nil => rfl
  | cons row later ih =>
    have rest := ih fun row present => plain row (List.mem_cons_of_mem _ present)
    rw [List.flatMap_cons, List.append_assoc]
    rcases eq_or_ne row [] with rfl | some
    · simp [lines, rest]
    · rw [lines_plain_append (plain row List.mem_cons_self) some]
      simp [lines, rest]

end TestbedWatchdog.Text
