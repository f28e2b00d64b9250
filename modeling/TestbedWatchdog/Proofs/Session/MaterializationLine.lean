import TestbedWatchdog.Proofs.Text.Words
import TestbedWatchdog.Session

namespace TestbedWatchdog

-- The label, and three words with blanks in front of each. The last word ends with the line or at a
-- blank, and what comes behind it is free.
inductive MaterializationLine : List Char → Session → Prop
  | parts {first second third project experiment materialization rest : List Char}
      (firstBlank : ∀ c ∈ first, Text.isBlank c = true) (firstGap : first ≠ [])
      (projectWord : Text.IsWord project)
      (secondBlank : ∀ c ∈ second, Text.isBlank c = true) (secondGap : second ≠ [])
      (experimentWord : Text.IsWord experiment)
      (thirdBlank : ∀ c ∈ third, Text.isBlank c = true) (thirdGap : third ≠ [])
      (materializationWord : Text.IsWord materialization)
      (ends : ∀ c ∈ rest.head?, Text.isBlank c = true) :
      MaterializationLine
        ("Materialization:".toList ++
          (first ++ (project ++ (second ++ (experiment ++ (third ++ (materialization ++ rest)))))))
        ⟨String.ofList project, String.ofList experiment, String.ofList materialization⟩

namespace Session

theorem field?_eq_some_iff : field? text = some (field, rest) ↔
    ∃ gap, gap ≠ [] ∧ (∀ c ∈ gap, Text.isBlank c = true) ∧ Text.IsWord field ∧
      text = gap ++ (field ++ rest) ∧ ∀ c ∈ rest.head?, Text.isBlank c = true := by
  constructor
  · intro read
    unfold field? at read
    split at read
    · cases read
    · rename_i behind found
      obtain ⟨gap, gapped, gapBlank, rfl, _⟩ := Text.blanks?_eq_some_iff.mp found
      split at read
      · cases read
      · rename_i named
        have cut : Text.word behind = (field, rest) := Option.some.inj read
        obtain ⟨rfl, fieldInk, ends⟩ := Text.word_eq_iff.mp cut
        have some : field ≠ [] := by
          rintro rfl
          exact named rest cut
        exact ⟨gap, gapped, gapBlank, ⟨some, fieldInk⟩, rfl, ends⟩
  · intro parts
    obtain ⟨gap, gapped, gapBlank, word, rfl, ends⟩ := parts
    obtain ⟨first, later, rfl⟩ := List.exists_cons_of_ne_nil word.some
    have opened : Text.blanks? (gap ++ (first :: later ++ rest)) = some (first :: later ++ rest) :=
      Text.blanks?_eq_some_iff.mpr
        ⟨gap, gapped, gapBlank, rfl, by simpa using word.ink first List.mem_cons_self⟩
    have cut : Text.word (first :: later ++ rest) = (first :: later, rest) :=
      Text.word_eq_iff.mpr ⟨rfl, word.ink, ends⟩
    simp only [field?, opened, cut]

theorem ofLine?_sound (read : ofLine? line = some session) : MaterializationLine line session := by
  unfold ofLine? at read
  split at read
  · rename_i labelled
    obtain ⟨behind, rfl⟩ := List.isPrefixOf_iff_prefix.mp labelled
    rw [List.drop_left] at read
    split at read
    · cases read
    · rename_i project afterProject one
      split at read
      · cases read
      · rename_i experiment afterExperiment two
        split at read
        · cases read
        · rename_i materialization rest three
          obtain ⟨first, firstGap, firstBlank, projectWord, rfl, _⟩ := field?_eq_some_iff.mp one
          obtain ⟨second, secondGap, secondBlank, experimentWord, rfl, _⟩ := field?_eq_some_iff.mp two
          obtain ⟨third, thirdGap, thirdBlank, materializationWord, rfl, ends⟩ :=
            field?_eq_some_iff.mp three
          cases read
          exact .parts firstBlank firstGap projectWord secondBlank secondGap experimentWord thirdBlank
            thirdGap materializationWord ends
  · cases read

theorem ofLine?_complete (named : MaterializationLine line session) : ofLine? line = some session := by
  cases named with
  | @parts first second third project experiment materialization rest firstBlank firstGap projectWord
      secondBlank secondGap experimentWord thirdBlank thirdGap materializationWord ends =>
    -- a gap stands behind each of the first two words, and so ends it
    have stops {gap : List Char} (text : List Char) (gapped : gap ≠ [])
        (gapBlank : ∀ c ∈ gap, Text.isBlank c = true) :
        ∀ c ∈ (gap ++ text).head?, Text.isBlank c = true := by
      obtain ⟨blank, more, rfl⟩ := List.exists_cons_of_ne_nil gapped
      simpa using gapBlank blank List.mem_cons_self
    have one := field?_eq_some_iff.mpr ⟨first, firstGap, firstBlank, projectWord, rfl,
      stops (experiment ++ (third ++ (materialization ++ rest))) secondGap secondBlank⟩
    have two := field?_eq_some_iff.mpr ⟨second, secondGap, secondBlank, experimentWord, rfl,
      stops (materialization ++ rest) thirdGap thirdBlank⟩
    have three := field?_eq_some_iff.mpr ⟨third, thirdGap, thirdBlank, materializationWord, rfl, ends⟩
    have labelled : label.isPrefixOf (label ++ (first ++ (project ++ (second ++
        (experiment ++ (third ++ (materialization ++ rest))))))) = true :=
      List.isPrefixOf_iff_prefix.mpr (List.prefix_append _ _)
    change ofLine? (label ++ _) = _
    simp only [ofLine?, labelled, if_true, List.drop_left, one, two, three]

theorem ofLine?_eq_some_iff : ofLine? line = some session ↔ MaterializationLine line session :=
  ⟨ofLine?_sound, ofLine?_complete⟩

theorem ofLine?_eq_none_iff :
    ofLine? line = none ↔ ∀ session, ¬ MaterializationLine line session := by
  simp only [Option.eq_none_iff_forall_ne_some, ne_eq, ofLine?_eq_some_iff]

end Session

end TestbedWatchdog
