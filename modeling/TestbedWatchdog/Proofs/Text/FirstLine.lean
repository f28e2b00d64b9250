import TestbedWatchdog.Proofs.Text.Lines

namespace TestbedWatchdog.Text

variable {text row line front back : List Char}

def FirstInked (text line : List Char) : Prop :=
  ∃ before after, lines text = before ++ line :: after ∧
    (∀ other ∈ before, allBlank other = true) ∧ allBlank line = false

def inkedLine? (text : List Char) : Option (List Char) :=
  (lines text).find? fun line => !allBlank line

theorem inkedLine?_eq_some_iff : inkedLine? text = some line ↔ FirstInked text line := by
  simp only [inkedLine?, List.find?_eq_some_iff_append, FirstInked, Bool.not_not, Bool.not_eq_true']
  constructor
  · rintro ⟨ink, before, after, cut, blank⟩
    exact ⟨before, after, cut, blank, ink⟩
  · rintro ⟨before, after, cut, blank, ink⟩
    exact ⟨ink, before, after, cut, blank⟩

theorem inkedLine?_eq_none : inkedLine? text = none ↔ ∀ line, ¬ FirstInked text line := by
  simp only [Option.eq_none_iff_forall_ne_some, ne_eq, inkedLine?_eq_some_iff]

theorem allBlank_cons {c : Char} : allBlank (c :: text) = (isBlank c && allBlank text) := rfl

-- Lines leave nothing out but newlines and carriage returns, which are blanks.
theorem lines_allBlank : (∀ line ∈ lines text, allBlank line = true) ↔ allBlank text = true := by
  have newline : isBlank '\n' = true := by decide
  have carriage : isBlank '\r' = true := by decide
  have nothing : allBlank [] = true := rfl
  fun_induction lines text with
  | case1 => simp [nothing]
  | case2 rest ih => simp [allBlank_cons, ih, newline, nothing]
  | case3 rest ih => simp [allBlank_cons, ih, newline, carriage, nothing]
  | case4 c rest _ _ none ih =>
    rw [none] at ih
    simp [allBlank_cons, ← ih, nothing]
  | case5 c rest _ _ line more cut ih =>
    rw [cut] at ih
    simp [allBlank_cons, ← ih, and_assoc]

theorem inkedLine?_eq_none_iff : inkedLine? text = none ↔ allBlank text = true := by
  rw [← lines_allBlank]
  simp [inkedLine?]

theorem inkedLine?_append (complete : ∀ last ∈ front.getLast?, last = '\n') :
    inkedLine? (front ++ back) = (inkedLine? front).or (inkedLine? back) := by
  rw [inkedLine?, lines_append complete, List.find?_append]
  rfl

theorem lines_newline (single : '\n' ∉ row) :
    ∃ line, lines (row ++ ['\n']) = [line] ∧ (row = line ∨ row = line ++ ['\r']) := by
  induction row with
  | nil => exact ⟨[], rfl, .inl rfl⟩
  | cons c rest ih =>
    obtain ⟨stays, later⟩ := not_or.mp (mt List.mem_cons.mpr single)
    cases rest with
    | nil =>
      by_cases carriage : c = '\r'
      · subst carriage
        exact ⟨[], rfl, .inr rfl⟩
      · refine ⟨[c], ?_, .inl rfl⟩
        exact lines_cons (Ne.symm stays) fun same => absurd same carriage
    | cons next more =>
      obtain ⟨line, cut, same⟩ := ih later
      refine ⟨c :: line, ?_, same.imp (congrArg (c :: ·)) (congrArg (c :: ·))⟩
      have inner : (next :: more ++ ['\n']).head? ≠ some '\n' := fun newline =>
        later (Option.some.inj newline ▸ List.mem_cons_self)
      rw [List.cons_append, lines_cons (Ne.symm stays) fun _ => inner, cut]
      rfl

theorem exists_open_row (text : List Char) : ∃ front row, text = front ++ row ∧
    (∀ last ∈ front.getLast?, last = '\n') ∧ '\n' ∉ row := by
  induction text with
  | nil => exact ⟨[], [], rfl, (fun _ none => by cases none), List.not_mem_nil⟩
  | cons c rest ih =>
    obtain ⟨front, row, rfl, complete, single⟩ := ih
    cases front with
    | cons first more =>
      exact ⟨c :: first :: more, row, rfl, by rwa [List.getLast?_cons_cons], single⟩
    | nil =>
      by_cases newline : c = '\n'
      · subst newline
        exact ⟨['\n'], row, rfl, fun _ ends => (Option.some.inj ends).symm, single⟩
      · refine ⟨[], c :: row, rfl, complete, ?_⟩
        rw [List.mem_cons, not_or]
        exact ⟨Ne.symm newline, single⟩

theorem findSome?_lines_newline {read : List Char → Option β} (nothing : read [] = none)
    (same : ∀ line, read (line ++ ['\r']) = read line) (text : List Char) :
    (lines (text ++ ['\n'])).findSome? read = (lines text).findSome? read := by
  obtain ⟨front, row, rfl, complete, single⟩ := exists_open_row text
  rw [List.append_assoc, lines_append complete, lines_append complete, List.findSome?_append,
    List.findSome?_append]
  apply congrArg ((lines front).findSome? read).or
  cases row with
  | nil => simp [lines, nothing]
  | cons c rest =>
    obtain ⟨line, closed, kept⟩ := lines_newline single
    rw [closed, lines_single single (List.cons_ne_nil _ _)]
    cases kept with
    | inl kept => rw [kept]
    | inr carriage => rw [carriage, List.findSome?_singleton, List.findSome?_singleton, same]

theorem allBlank_append_carriage : allBlank (line ++ ['\r']) = allBlank line := by
  have carriage : isBlank '\r' = true := by decide
  simp [allBlank, carriage]

theorem inkedLine?_newline (text : List Char) :
    inkedLine? (text ++ ['\n']) = inkedLine? text ∨
      ∃ line, inkedLine? (text ++ ['\n']) = some line ∧ inkedLine? text = some (line ++ ['\r']) ∧
        line ++ ['\r'] <:+ text := by
  obtain ⟨front, row, rfl, complete, single⟩ := exists_open_row text
  rw [List.append_assoc, inkedLine?_append complete, inkedLine?_append complete]
  cases found : inkedLine? front with
  | some line => exact .inl rfl
  | none =>
    simp only [Option.none_or]
    obtain ⟨line, closed, same⟩ := lines_newline single
    cases row with
    | nil => exact .inl rfl
    | cons c rest =>
      have whole : lines (c :: rest) = [c :: rest] := lines_single single (List.cons_ne_nil _ _)
      rcases same with same | same
      · refine .inl ?_
        rw [inkedLine?, inkedLine?, closed, whole, same]
      · rw [inkedLine?, inkedLine?, closed, whole, same]
        cases blank : allBlank line with
        | true => exact .inl (by simp [blank, allBlank_append_carriage])
        | false =>
          refine .inr ⟨line, by simp [blank], by simp [blank, allBlank_append_carriage], ?_⟩
          exact List.suffix_append front _

end TestbedWatchdog.Text
