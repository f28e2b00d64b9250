import TestbedWatchdog.Proofs.Session.MaterializationLine
import TestbedWatchdog.Proofs.Text.Lines

namespace TestbedWatchdog.Session

variable {text other : String} {session first second : Session}

structure IsWorded (session : Session) : Prop where
  project : Text.IsWord session.project.toList
  experiment : Text.IsWord session.experiment.toList
  materialization : Text.IsWord session.materialization.toList

theorem isWorded_of_line (named : MaterializationLine line session) : session.IsWorded := by
  cases named with
  | parts _ _ projectWord _ _ experimentWord _ _ materializationWord _ =>
    constructor
    · simpa using projectWord
    · simpa using experimentWord
    · simpa using materializationWord

theorem isWorded_of_parse? (read : parse? text = some session) : session.IsWorded := by
  obtain ⟨line, _, named⟩ := List.exists_of_findSome?_eq_some read
  exact isWorded_of_line (ofLine?_sound named)

def shown (session : Session) : String := "Materialization: " ++ session.display

theorem display_toList : session.display.toList =
    session.project.toList ++ ([' '] ++
      (session.experiment.toList ++ ([' '] ++ session.materialization.toList))) := by
  have blank : " ".toList = [' '] := by decide
  rw [display, String.toList_append, String.toList_append, String.toList_append, String.toList_append,
    blank]
  simp only [List.append_assoc]

theorem shown_toList :
    session.shown.toList = label ++ ([' '] ++ session.display.toList) := by
  have labelled : "Materialization: ".toList = label ++ [' '] := by decide
  calc
    session.shown.toList = "Materialization: ".toList ++ session.display.toList := String.toList_append
    _ = label ++ ([' '] ++ session.display.toList) := by rw [labelled, List.append_assoc]

theorem shown_line (worded : session.IsWorded) (ends : ∀ c ∈ rest.head?, Text.isBlank c = true) :
    MaterializationLine (session.shown.toList ++ rest) session := by
  have blank : ∀ c ∈ [' '], Text.isBlank c = true := List.forall_mem_singleton.mpr (by decide)
  have gap : [' '] ≠ [] := List.cons_ne_nil _ _
  have parts := MaterializationLine.parts blank gap worded.project blank gap worded.experiment blank gap
    worded.materialization ends
  rw [shown_toList, display_toList]
  simp only [String.ofList_toList] at parts
  simp only [List.append_assoc]
  exact parts

theorem shown_plain (worded : session.IsWorded) : ∀ c ∈ session.shown.toList, Text.IsPlain c := by
  have labelled : ∀ c ∈ label, Text.IsPlain c := List.all_iff_forall_prop.mp (by decide)
  have blank : Text.IsPlain ' ' := by decide
  simp only [shown_toList, display_toList, List.forall_mem_append, List.forall_mem_singleton]
  exact ⟨labelled, blank, worded.project.plain, blank, worded.experiment.plain, blank,
    worded.materialization.plain⟩

theorem parse?_shown (worded : session.IsWorded) {before after : String}
    (complete : ∀ c ∈ before.toList.getLast?, c = '\n')
    (silent : ∀ line ∈ Text.lines before.toList, ∀ other, ¬ MaterializationLine line other)
    (ends : ∀ c ∈ after.toList.head?, Text.isBlank c = true) :
    parse? (before ++ session.shown ++ after) = some session := by
  have nothing : (Text.lines before.toList).findSome? ofLine? = none :=
    List.findSome?_eq_none_iff.mpr fun line present => ofLine?_eq_none_iff.mpr (silent line present)
  have some : session.shown.toList ≠ [] := by
    rw [shown_toList]
    exact List.append_ne_nil_of_right_ne_nil _ (List.cons_ne_nil _ _)
  have stops : ∀ c ∈ ((Text.lines after.toList).headD []).head?, Text.isBlank c = true :=
    fun c first => ends c (Text.head?_headD_lines c first)
  have named := ofLine?_complete (shown_line worded stops)
  unfold parse?
  rw [String.toList_append, String.toList_append, List.append_assoc, Text.lines_append complete,
    List.findSome?_append, nothing, Text.lines_plain_append (shown_plain worded) some, Option.none_or,
    List.findSome?_cons, named]

theorem parse?_shown_alone (worded : session.IsWorded) : parse? session.shown = some session := by
  have read := @parse?_shown session worded "" "" (by simp) (by simp [Text.lines]) (by simp)
  simpa using read

theorem display_injective (one : parse? text = some first) (two : parse? other = some second)
    (same : first.display = second.display) : first = second := by
  have again := parse?_shown_alone (isWorded_of_parse? one)
  have likewise := parse?_shown_alone (isWorded_of_parse? two)
  unfold shown at again likewise
  rw [same, likewise] at again
  exact (Option.some.inj again).symm

-- Reading yields three words; three words that are shown are read again, whatever lines stand before them
-- that name nothing, and whatever stands behind a blank after them.
theorem parse?_inverts_display :
    (∀ text session, parse? text = some session → session.IsWorded) ∧
    (∀ session : Session, session.IsWorded → ∀ before after : String,
      (∀ c ∈ before.toList.getLast?, c = '\n') →
      (∀ line ∈ Text.lines before.toList, ∀ other, ¬ MaterializationLine line other) →
      (∀ c ∈ after.toList.head?, Text.isBlank c = true) →
      parse? (before ++ ("Materialization: " ++ session.display) ++ after) = some session) ∧
    (∀ text session, parse? text = some session →
      parse? ("Materialization: " ++ session.display) = some session) ∧
    ∀ text other first second, parse? text = some first → parse? other = some second →
      first.display = second.display → first = second := by
  refine ⟨?_, ?_, ?_, ?_⟩
  · intro text session read
    exact isWorded_of_parse? read
  · intro session worded before after complete silent ends
    exact parse?_shown worded complete silent ends
  · intro text session read
    exact parse?_shown_alone (isWorded_of_parse? read)
  · intro text other first second one two same
    exact display_injective one two same

-- A line that breaks off before, and another materialization behind; the blanks between the words are
-- not those of the first reading.
theorem parse?_among_other_lines :
    let session : Session := ⟨"dcomp", "map-exp", "real"⟩
    let spread := "Materialization:\t dcomp \u2003map-exp\u00A0real\n"
    let before := "Tunnel: up\r\nMaterialization: dcomp map-exp \n"
    let after := "\r\nMaterialization: other map left\n"
    parse? spread = some session ∧ session.IsWorded ∧
      parse? (before ++ ("Materialization: " ++ session.display) ++ after) = some session ∧
      ∀ later, parse? after = some later → later.display ≠ session.display := by
  intro session spread before after
  obtain ⟨worded, inverse, _, injective⟩ := parse?_inverts_display
  have read : parse? spread = some session := by decide +kernel
  have newline : before.toList.getLast? = some '\n' := by decide +kernel
  have silent : ∀ line ∈ Text.lines before.toList, ofLine? line = none := by decide +kernel
  have blank : after.toList.head? = some '\r' := by decide +kernel
  have behind : parse? after = some ⟨"other", "map", "left"⟩ := by decide +kernel
  refine ⟨read, worded _ _ read, ?_, ?_⟩
  · refine inverse session (worded _ _ read) before after ?_ ?_ ?_
    · simp [newline]
    · exact fun line present => ofLine?_eq_none_iff.mp (silent line present)
    · simp only [blank, Option.mem_some, forall_eq']
      decide
  · intro later found same
    have equal := injective _ _ _ _ found read same
    rw [behind, equal] at found
    exact absurd (Option.some.inj found) (by decide)

end TestbedWatchdog.Session
