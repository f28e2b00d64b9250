import TestbedWatchdog.Proofs.Session.MaterializationLine
import TestbedWatchdog.Proofs.Text.Lines
import TestbedWatchdog.Proofs.Text.Pattern
import TestbedWatchdog.Session.Detection

namespace TestbedWatchdog

structure MaterializationParts where
  first : List Char
  project : List Char
  second : List Char
  experiment : List Char
  third : List Char
  materialization : List Char
  rest : List Char

namespace MaterializationParts

def words (parts : MaterializationParts) : List Char :=
  parts.first ++ (parts.project ++ (parts.second ++ (parts.experiment ++ (parts.third ++
    (parts.materialization ++ parts.rest)))))

def line (parts : MaterializationParts) : List Char := Session.label ++ parts.words

def session (parts : MaterializationParts) : Session :=
  ⟨String.ofList parts.project, String.ofList parts.experiment, String.ofList parts.materialization⟩

structure Lawful (parts : MaterializationParts) : Prop where
  first : Text.IsGap parts.first
  project : Text.IsWord parts.project
  second : Text.IsGap parts.second
  experiment : Text.IsWord parts.experiment
  third : Text.IsGap parts.third
  materialization : Text.IsWord parts.materialization
  ends : ∀ c ∈ parts.rest.head?, Text.isBlank c = true

variable {parts other : MaterializationParts} {line : List Char}

theorem Lawful.rest_stops (lawful : parts.Lawful) : ∀ c ∈ parts.rest.head?, Text.isInk c = false :=
  fun c first => Text.not_isInk_iff.mpr (lawful.ends c first)

-- The cuts are forced from left to right: behind the label, blanks and ink take turns.
theorem Lawful.unique (lawful : parts.Lawful) (otherLawful : other.Lawful)
    (same : other.line = parts.line) : other = parts := by
  have behind := List.append_cancel_left same
  obtain ⟨first, afterFirst⟩ := Text.cut_unique behind lawful.first.blank lawful.project.stops_blanks
    otherLawful.first.blank otherLawful.project.stops_blanks
  obtain ⟨project, afterProject⟩ := Text.cut_unique afterFirst lawful.project.isInk
    lawful.second.stops_ink otherLawful.project.isInk otherLawful.second.stops_ink
  obtain ⟨second, afterSecond⟩ := Text.cut_unique afterProject lawful.second.blank
    lawful.experiment.stops_blanks otherLawful.second.blank otherLawful.experiment.stops_blanks
  obtain ⟨experiment, afterExperiment⟩ := Text.cut_unique afterSecond lawful.experiment.isInk
    lawful.third.stops_ink otherLawful.experiment.isInk otherLawful.third.stops_ink
  obtain ⟨third, afterThird⟩ := Text.cut_unique afterExperiment lawful.third.blank
    lawful.materialization.stops_blanks otherLawful.third.blank otherLawful.materialization.stops_blanks
  obtain ⟨materialization, rest⟩ := Text.cut_unique afterThird lawful.materialization.isInk
    lawful.rest_stops otherLawful.materialization.isInk otherLawful.rest_stops
  cases parts
  cases other
  simp_all

end MaterializationParts

theorem materializationLine_iff_parts {line : List Char} {session : Session} :
    MaterializationLine line session ↔
      ∃ parts : MaterializationParts, parts.Lawful ∧ parts.line = line ∧ parts.session = session := by
  constructor
  · intro named
    cases named with
    | @parts first second third project experiment materialization rest firstBlank firstGap projectWord
        secondBlank secondGap experimentWord thirdBlank thirdGap materializationWord ends =>
      exact ⟨⟨first, project, second, experiment, third, materialization, rest⟩,
        ⟨⟨firstGap, firstBlank⟩, projectWord, ⟨secondGap, secondBlank⟩, experimentWord,
          ⟨thirdGap, thirdBlank⟩, materializationWord, ends⟩, rfl, rfl⟩
  · intro cut
    obtain ⟨parts, lawful, rfl, rfl⟩ := cut
    exact .parts lawful.first.blank lawful.first.some lawful.project lawful.second.blank
      lawful.second.some lawful.experiment lawful.third.blank lawful.third.some lawful.materialization
      lawful.ends

namespace Session

variable {parts : MaterializationParts} {line : List Char} {way : List (List Char)} {session : Session}

def IsNaming (line : List Char) : Prop := ∃ parts : MaterializationParts, parts.Lawful ∧ parts.line = line

theorem ofLine?_parts (lawful : parts.Lawful) : ofLine? parts.line = some parts.session :=
  ofLine?_complete (materializationLine_iff_parts.mpr ⟨parts, lawful, rfl, rfl⟩)

theorem ofLine?_eq_none_iff_not_naming : ofLine? line = none ↔ ¬ IsNaming line := by
  rw [ofLine?_eq_none_iff]
  constructor
  · intro nothing naming
    obtain ⟨parts, lawful, same⟩ := naming
    exact nothing parts.session (materializationLine_iff_parts.mpr ⟨parts, lawful, same, rfl⟩)
  · intro bad session named
    obtain ⟨parts, lawful, same, _⟩ := materializationLine_iff_parts.mp named
    exact bad ⟨parts, lawful, same⟩

def wordsPattern : List Text.Piece :=
  [.atLeastOne Text.isBlank, .atLeastOne Text.isInk, .atLeastOne Text.isBlank, .atLeastOne Text.isInk,
   .atLeastOne Text.isBlank, .atLeastOne Text.isInk]

def linePattern : List Text.Piece := Text.literal label ++ wordsPattern

def captured (way : List (List Char)) : Option Session :=
  match way.drop label.length with
  | [_, project, _, experiment, _, materialization] =>
    some ⟨String.ofList project, String.ofList experiment, String.ofList materialization⟩
  | _ => none

def wayTo (parts : MaterializationParts) (front : List Char) : List (List Char) :=
  label.map ([·]) ++
    [parts.first, parts.project, parts.second, parts.experiment, parts.third, front]

theorem captured_wayTo (parts : MaterializationParts) (front : List Char) :
    captured (wayTo parts front) =
      some { parts.session with materialization := String.ofList front } := by
  have behind : (wayTo parts front).drop label.length =
      [parts.first, parts.project, parts.second, parts.experiment, parts.third, front] :=
    List.drop_left' (List.length_map _)
  rw [captured, behind]
  rfl

theorem laid_wayTo (lawful : parts.Lawful) :
    Text.Laid Text.Piece.Fills linePattern (wayTo parts parts.materialization) parts.line := by
  apply Text.laid_literal
  exact .next ⟨lawful.first.some, lawful.first.blank, lawful.project.stops_blanks⟩ <|
    .next ⟨lawful.project.some, lawful.project.isInk, lawful.second.stops_ink⟩ <|
    .next ⟨lawful.second.some, lawful.second.blank, lawful.experiment.stops_blanks⟩ <|
    .next ⟨lawful.experiment.some, lawful.experiment.isInk, lawful.third.stops_ink⟩ <|
    .next ⟨lawful.third.some, lawful.third.blank, lawful.materialization.stops_blanks⟩ <|
    .next ⟨lawful.materialization.some, lawful.materialization.isInk, lawful.rest_stops⟩ .done

-- Another way can only break off within the last word.
theorem words_of_laid {text : List Char} (laid : Text.Laid Text.Piece.Takes wordsPattern way text) :
    ∃ parts : MaterializationParts, parts.Lawful ∧ parts.words = text ∧
      ∃ front, front <+: parts.materialization ∧
        way = [parts.first, parts.project, parts.second, parts.experiment, parts.third, front] := by
  have word {text : List Char} (some : text ≠ []) (ink : ∀ c ∈ text, Text.isInk c = true) :
      Text.IsWord text := ⟨some, fun c present => Text.isInk_iff.mp (ink c present)⟩
  obtain ⟨first, _, _, rfl, rfl, ⟨firstGap, firstBlank⟩, afterFirst⟩ := laid.of_cons
  obtain ⟨project, _, _, rfl, rfl, ⟨projectSome, projectInk⟩, afterProject⟩ := afterFirst.of_cons
  obtain ⟨second, _, _, rfl, rfl, ⟨secondGap, secondBlank⟩, afterSecond⟩ := afterProject.of_cons
  obtain ⟨experiment, _, _, rfl, rfl, ⟨experimentSome, experimentInk⟩, afterExperiment⟩ :=
    afterSecond.of_cons
  obtain ⟨third, _, _, rfl, rfl, ⟨thirdGap, thirdBlank⟩, afterThird⟩ := afterExperiment.of_cons
  obtain ⟨front, behind, _, rfl, rfl, ⟨frontSome, frontInk⟩, afterFront⟩ := afterThird.of_cons
  obtain rfl := afterFront.of_nil
  -- the last word goes on for as long as there is ink
  cases cut : Text.word behind with
  | mk more rest =>
    obtain ⟨rfl, moreInk, ends⟩ := Text.word_eq_iff.mp cut
    have last : Text.IsWord (front ++ more) := by
      refine ⟨List.append_ne_nil_of_left_ne_nil frontSome _, ?_⟩
      rw [List.forall_mem_append]
      exact ⟨(word frontSome frontInk).ink, moreInk⟩
    refine ⟨⟨first, project, second, experiment, third, front ++ more, rest⟩,
      ⟨⟨firstGap, firstBlank⟩, word projectSome projectInk, ⟨secondGap, secondBlank⟩,
        word experimentSome experimentInk, ⟨thirdGap, thirdBlank⟩, last, ends⟩, ?_, front,
      List.prefix_append _ _, rfl⟩
    simp [MaterializationParts.words]

theorem parts_of_way (found : way ∈ Text.ways linePattern line) :
    ∃ parts : MaterializationParts, parts.Lawful ∧ parts.line = line ∧
      ∃ front, front <+: parts.materialization ∧ way = wayTo parts front := by
  obtain ⟨text, taken, rfl, rfl, laid⟩ := (Text.mem_ways.mp found).of_literal
  obtain ⟨parts, lawful, rfl, front, given, rfl⟩ := words_of_laid laid
  exact ⟨parts, lawful, rfl, front, given, rfl⟩

theorem ways_ne_nil_iff_naming : Text.ways linePattern line ≠ [] ↔ IsNaming line := by
  constructor
  · intro some
    obtain ⟨way, found⟩ := List.exists_mem_of_ne_nil _ some
    obtain ⟨parts, lawful, same, _⟩ := parts_of_way found
    exact ⟨parts, lawful, same⟩
  · intro naming none
    obtain ⟨parts, lawful, rfl⟩ := naming
    have first := Text.head?_ways (laid_wayTo lawful)
    rw [none] at first
    cases first

theorem parse?_eq_some_iff {text : String} : parse? text = some session ↔
    ∃ (before : List (List Char)) (parts : MaterializationParts) (after : List (List Char)),
      Text.lines text.toList = before ++ parts.line :: after ∧
      (∀ line ∈ before, ¬ IsNaming line) ∧ parts.Lawful ∧ parts.session = session := by
  rw [parse?, List.findSome?_eq_some_iff]
  constructor
  · intro first
    obtain ⟨before, line, after, cut, read, nothing⟩ := first
    obtain ⟨parts, lawful, rfl, same⟩ := materializationLine_iff_parts.mp (ofLine?_sound read)
    exact ⟨before, parts, after, cut,
      fun line earlier => ofLine?_eq_none_iff_not_naming.mp (nothing line earlier), lawful, same⟩
  · intro first
    obtain ⟨before, parts, after, cut, bad, lawful, rfl⟩ := first
    exact ⟨before, parts.line, after, cut, ofLine?_parts lawful,
      fun line earlier => ofLine?_eq_none_iff_not_naming.mpr (bad line earlier)⟩

theorem parse?_eq_none_iff {text : String} :
    parse? text = none ↔ ∀ line ∈ Text.lines text.toList, ¬ IsNaming line := by
  rw [parse?, List.findSome?_eq_none_iff]
  simp only [ofLine?_eq_none_iff_not_naming]

theorem ofOutput_unparsed_iff {text : String} :
    ofOutput ⟨.exited 0, text, ""⟩ = .error .sessionUnparsed ↔ parse? text = none := by
  have whole : Output.combined ⟨.exited 0, text, ""⟩ = text := rfl
  unfold ofOutput
  rw [whole]
  cases parse? text with
  | none => simp [Status.isSuccess]
  | some session => simp [Status.isSuccess]

-- The grammar of a line that names a materialization, its single reading, and the search, which finds no
-- other one first; and what a text comes to, line by line.
theorem first_naming_line_read_one_way (text : String) :
    let lines := Text.lines text.toList
    (∀ session, parse? text = some session ↔
      ∃ (before : List (List Char)) (parts : MaterializationParts) (after : List (List Char)),
        lines = before ++ parts.line :: after ∧ (∀ line ∈ before, ¬ IsNaming line) ∧ parts.Lawful ∧
          parts.session = session) ∧
    (parse? text = none ↔ ∀ line ∈ lines, ¬ IsNaming line) ∧
    (ofOutput ⟨.exited 0, text, ""⟩ = .error .sessionUnparsed ↔ ∀ line ∈ lines, ¬ IsNaming line) ∧
    (∀ line ∈ lines, '\n' ∉ line) ∧
    ∀ line, let found := Text.ways linePattern line
      (IsNaming line ↔ found ≠ []) ∧
      ∀ parts : MaterializationParts, parts.Lawful → parts.line = line →
        (∀ other : MaterializationParts, other.Lawful → other.line = line → other = parts) ∧
        found.head?.bind captured = some parts.session ∧
        ∀ way ∈ found, ∃ front, front <+: parts.materialization ∧
          captured way = some { parts.session with materialization := String.ofList front } := by
  intro lines
  refine ⟨fun session => parse?_eq_some_iff, parse?_eq_none_iff,
    ofOutput_unparsed_iff.trans parse?_eq_none_iff,
    fun line present => Text.not_mem_of_mem_lines present, ?_⟩
  intro line found
  refine ⟨ways_ne_nil_iff_naming.symm, ?_⟩
  intro parts lawful same
  subst same
  refine ⟨fun other otherLawful same => lawful.unique otherLawful same, ?_, ?_⟩
  · rw [Text.head?_ways (laid_wayTo lawful)]
    exact captured_wayTo parts parts.materialization
  · intro way tried
    obtain ⟨other, otherLawful, same, front, given, rfl⟩ := parts_of_way tried
    obtain rfl := lawful.unique otherLawful same
    exact ⟨front, given, captured_wayTo other front⟩

-- A line that breaks off and one that is indented stand before the naming line, whose blanks are of many
-- kinds, and another naming line stands behind it.
theorem words_read_one_way :
    let parts : MaterializationParts :=
      ⟨['\u2003'], ['d', ':'], [' ', '\t'], ['m', '-', 'x'], ['\r', ' '], ['r', '1', '.'], [' ', '+']⟩
    let text := "Materialization: d m \r\n Materialization: a b c\n" ++ String.ofList parts.line ++
      "\nMaterialization: x y z\n"
    parts.Lawful ∧ parse? text = some ⟨"d:", "m-x", "r1."⟩ ∧
      (Text.ways linePattern parts.line).map captured =
        [some ⟨"d:", "m-x", "r1."⟩, some ⟨"d:", "m-x", "r1"⟩, some ⟨"d:", "m-x", "r"⟩] ∧
      (Text.ways linePattern parts.line).head?.bind captured = some parts.session := by
  intro parts text
  have gap (blanks : List Char) (some : blanks ≠ []) (all : blanks.all Text.isBlank = true) :
      Text.IsGap blanks := ⟨some, List.all_eq_true.mp all⟩
  have lawful : parts.Lawful :=
    ⟨gap _ (by decide) (by decide), by decide, gap _ (by decide) (by decide), by decide,
      gap _ (by decide) (by decide), by decide, by simpa [parts] using (by decide)⟩
  obtain ⟨read, _, _, _, search⟩ := first_naming_line_read_one_way text
  have cut : Text.lines text.toList =
      ["Materialization: d m ".toList, " Materialization: a b c".toList] ++ parts.line ::
        ["Materialization: x y z".toList] := by decide +kernel
  refine ⟨lawful, (read _).mpr ⟨_, parts, _, cut, ?_, lawful, rfl⟩, by decide +kernel,
    ((search parts.line).2 parts lawful rfl).2.1⟩
  intro line earlier
  rw [← ofLine?_eq_none_iff_not_naming]
  revert line
  decide +kernel

end Session

end TestbedWatchdog
