import TestbedWatchdog.Proofs.Probe.StatusLine
import TestbedWatchdog.Proofs.Text.Lines
import TestbedWatchdog.Proofs.Text.Pattern

namespace TestbedWatchdog

structure StatusParts where
  token : List Char
  gap : List Char
  margin : List Char
  status : List Char
  stop : Char
  rest : List Char

structure IsShortName (host token : List Char) : Prop where
  front : host <+: token
  undotted : '.' ∉ host
  longest : ∀ other, other <+: token → '.' ∉ other → other <+: host

theorem isShortName_takeWhile (token : List Char) : IsShortName (token.takeWhile (· ≠ '.')) token := by
  constructor
  · exact List.takeWhile_prefix _
  · intro dotted
    have undotted := List.mem_takeWhile_imp dotted
    simp at undotted
  · intro other front undotted
    obtain ⟨behind, rfl⟩ := front
    have fits : ∀ c ∈ other, decide (c ≠ '.') = true := by
      intro c present
      rw [decide_eq_true_eq]
      rintro rfl
      exact undotted present
    rw [List.takeWhile_append_of_pos fits]
    exact List.prefix_append _ _

theorem IsShortName.eq_takeWhile {host token : List Char} (short : IsShortName host token) :
    host = token.takeWhile (· ≠ '.') := by
  have other := isShortName_takeWhile token
  have within := other.longest host short.front short.undotted
  have around := short.longest _ other.front other.undotted
  exact within.eq_of_length_le around.length_le

namespace StatusParts

def line (parts : StatusParts) : List Char :=
  parts.token ++ (parts.gap ++ '|' :: (parts.margin ++ (parts.status ++ parts.stop :: parts.rest)))

def host (parts : StatusParts) : List Char := parts.token.takeWhile (· ≠ '.')

structure Lawful (parts : StatusParts) : Prop where
  token : Text.IsWord parts.token
  undotted : parts.token.head? ≠ some '.'
  gap : Text.IsGap parts.gap
  margin : Text.IsGap parts.margin
  status : Text.IsWord parts.status
  stop : Text.isBlank parts.stop = true

variable {parts other : StatusParts} {rest : List Char}

theorem bar_stops : ∀ c ∈ ('|' :: rest).head?, Text.isBlank c = false := by
  intro c first
  obtain rfl := Option.some.inj first
  decide

theorem Lawful.status_stops (lawful : parts.Lawful) :
    ∀ c ∈ (parts.stop :: parts.rest).head?, Text.isInk c = false := by
  intro c first
  obtain rfl := Option.some.inj first
  exact Text.not_isInk_iff.mpr lawful.stop

-- The cuts are forced from left to right: ink and blanks take turns, and the bar is ink.
theorem Lawful.unique (lawful : parts.Lawful) (otherLawful : other.Lawful)
    (same : other.line = parts.line) : other = parts := by
  obtain ⟨token, afterToken⟩ := Text.cut_unique same lawful.token.isInk lawful.gap.stops_ink
    otherLawful.token.isInk otherLawful.gap.stops_ink
  obtain ⟨gap, afterGap⟩ := Text.cut_unique afterToken lawful.gap.blank bar_stops
    otherLawful.gap.blank bar_stops
  obtain ⟨margin, afterMargin⟩ := Text.cut_unique (List.cons.inj afterGap).2 lawful.margin.blank
    lawful.status.stops_blanks otherLawful.margin.blank otherLawful.status.stops_blanks
  obtain ⟨status, afterStatus⟩ := Text.cut_unique afterMargin lawful.status.isInk
    lawful.status_stops otherLawful.status.isInk otherLawful.status_stops
  obtain ⟨stop, rest⟩ := List.cons.inj afterStatus
  cases parts
  cases other
  simp_all

end StatusParts

theorem takeWhile_ne_nil_iff {token : List Char} :
    token.takeWhile (· ≠ '.') ≠ [] ↔ token ≠ [] ∧ token.head? ≠ some '.' := by
  cases token with
  | nil => simp
  | cons first rest => by_cases dot : first = '.' <;> simp [dot]

theorem statusLine_iff_parts {line : List Char} {host status : String} : StatusLine line host status ↔
    ∃ parts : StatusParts, parts.Lawful ∧ parts.line = line ∧
      String.ofList parts.host = host ∧ String.ofList parts.status = status := by
  constructor
  · intro spoken
    cases spoken with
    | @parts token gap margin status rest stop tokenInk named gapBlank gapped marginBlank margined
        statusInk stated stopBlank =>
      obtain ⟨some, undotted⟩ := takeWhile_ne_nil_iff.mp named
      exact ⟨⟨token, gap, margin, status, stop, rest⟩,
        ⟨⟨some, tokenInk⟩, undotted, ⟨gapped, gapBlank⟩, ⟨margined, marginBlank⟩, ⟨stated, statusInk⟩,
          stopBlank⟩, rfl, rfl, rfl⟩
  · rintro ⟨parts, lawful, rfl, rfl, rfl⟩
    exact .parts lawful.token.ink (takeWhile_ne_nil_iff.mpr ⟨lawful.token.some, lawful.undotted⟩)
      lawful.gap.blank lawful.gap.some lawful.margin.blank lawful.margin.some lawful.status.ink
      lawful.status.some lawful.stop

namespace ProbeReport

variable {parts : StatusParts} {line : List Char} {way : List (List Char)}

def statusPattern : List Text.Piece :=
  [.atLeastOne fun c => c ≠ '.' && Text.isInk c, .anyNumber Text.isInk, .atLeastOne Text.isBlank,
   .one (· = '|'), .atLeastOne Text.isBlank, .atLeastOne Text.isInk, .one Text.isBlank]

def captured : List (List Char) → Option (String × String)
  | [host, _, _, _, _, status, _] => some (String.ofList host, String.ofList status)
  | _ => none

def firstWay (parts : StatusParts) : List (List Char) :=
  [parts.host, parts.token.dropWhile (· ≠ '.'), parts.gap, ['|'], parts.margin, parts.status, [parts.stop]]

theorem host_stops (lawful : parts.Lawful) :
    ∀ c ∈ (parts.token.dropWhile (· ≠ '.') ++ (parts.gap ++ rest)).head?,
      (c ≠ '.' && Text.isInk c) = false := by
  intro c first
  have dot := List.head?_dropWhile_not (· ≠ '.') parts.token
  cases behind : parts.token.dropWhile (· ≠ '.') with
  | nil =>
    rw [behind, List.nil_append] at first
    rw [lawful.gap.stops_ink c first, Bool.and_false]
  | cons head later =>
    rw [behind] at first dot
    obtain rfl := Option.some.inj first
    rw [List.head?_cons] at dot
    rw [dot, Bool.false_and]

theorem laid_firstWay (lawful : parts.Lawful) :
    Text.Laid Text.Piece.Fills statusPattern (firstWay parts) parts.line := by
  have whole : parts.line = parts.host ++ (parts.token.dropWhile (· ≠ '.') ++ (parts.gap ++ (['|'] ++
      (parts.margin ++ (parts.status ++ ([parts.stop] ++ parts.rest)))))) := by
    rw [StatusParts.line, StatusParts.host, ← List.append_assoc (List.takeWhile _ _),
      List.takeWhile_append_dropWhile]
    rfl
  have inkToken := lawful.token.isInk
  rw [whole]
  refine .next ⟨?_, ?_, host_stops lawful⟩ <| .next ⟨?_, lawful.gap.stops_ink⟩ <|
    .next ⟨lawful.gap.some, lawful.gap.blank, StatusParts.bar_stops⟩ <| .next ⟨'|', rfl, by decide⟩ <|
    .next ⟨lawful.margin.some, lawful.margin.blank, lawful.status.stops_blanks⟩ <|
    .next ⟨lawful.status.some, lawful.status.isInk, lawful.status_stops⟩ <|
    .next ⟨parts.stop, rfl, lawful.stop⟩ .done
  · exact takeWhile_ne_nil_iff.mpr ⟨lawful.token.some, lawful.undotted⟩
  · intro c taken
    have short := List.mem_takeWhile_imp taken
    exact Bool.and_eq_true_iff.mpr ⟨short, inkToken c (List.takeWhile_subset _ taken)⟩
  · intro c dropped
    exact inkToken c (List.dropWhile_subset _ dropped)

-- Another way can only give back some of the host to the rest of the token.
theorem parts_of_way (found : way ∈ Text.ways statusPattern line) :
    ∃ parts : StatusParts, parts.Lawful ∧ parts.line = line ∧
      ∃ front, front <+: parts.host ∧
        captured way = some (String.ofList front, String.ofList parts.status) := by
  obtain ⟨host, _, _, rfl, rfl, ⟨named, hostFits⟩, afterHost⟩ := (Text.mem_ways.mp found).of_cons
  obtain ⟨tail, _, _, rfl, rfl, tailInk, afterTail⟩ := afterHost.of_cons
  obtain ⟨gap, _, _, rfl, rfl, ⟨gapped, gapBlank⟩, afterGap⟩ := afterTail.of_cons
  obtain ⟨_, _, _, rfl, rfl, ⟨bar, rfl, isBar⟩, afterBar⟩ := afterGap.of_cons
  obtain ⟨margin, _, _, rfl, rfl, ⟨margined, marginBlank⟩, afterMargin⟩ := afterBar.of_cons
  obtain ⟨status, _, _, rfl, rfl, ⟨stated, statusInk⟩, afterStatus⟩ := afterMargin.of_cons
  obtain ⟨_, rest, _, rfl, rfl, ⟨stop, rfl, stopBlank⟩, afterStop⟩ := afterStatus.of_cons
  obtain rfl := afterStop.of_nil
  obtain rfl := of_decide_eq_true isBar
  have undotted : '.' ∉ host := by
    intro dotted
    have fit := hostFits '.' dotted
    simp at fit
  refine ⟨⟨host ++ tail, gap, margin, status, stop, rest⟩, ?_, ?_, host, ?_, rfl⟩
  · have first : ∀ c ∈ host, Text.isBlank c = false := by
      intro c present
      have fit := hostFits c present
      rw [Bool.and_eq_true] at fit
      exact Text.isInk_iff.mp fit.2
    have token : Text.IsWord (host ++ tail) := by
      refine ⟨List.append_ne_nil_of_left_ne_nil named _, ?_⟩
      rw [List.forall_mem_append]
      exact ⟨first, fun c present => Text.isInk_iff.mp (tailInk c present)⟩
    refine ⟨token, ?_, ⟨gapped, gapBlank⟩, ⟨margined, marginBlank⟩,
      ⟨stated, fun c present => Text.isInk_iff.mp (statusInk c present)⟩, stopBlank⟩
    obtain ⟨head, later, rfl⟩ := List.exists_cons_of_ne_nil named
    intro dot
    obtain rfl := Option.some.inj dot
    exact undotted List.mem_cons_self
  · simp [StatusParts.line]
  · exact (isShortName_takeWhile _).longest host (List.prefix_append _ _) undotted

theorem ways_ne_nil_iff :
    Text.ways statusPattern line ≠ [] ↔ ∃ parts : StatusParts, parts.Lawful ∧ parts.line = line := by
  constructor
  · intro some
    obtain ⟨way, found⟩ := List.exists_mem_of_ne_nil _ some
    obtain ⟨parts, lawful, same, _⟩ := parts_of_way found
    exact ⟨parts, lawful, same⟩
  · rintro ⟨parts, lawful, rfl⟩ none
    have first := Text.head?_ways (laid_firstWay lawful)
    rw [none] at first
    cases first

theorem statusLine?_isSome_iff :
    (statusLine? line).isSome = true ↔ ∃ parts : StatusParts, parts.Lawful ∧ parts.line = line := by
  rw [Option.isSome_iff_exists]
  constructor
  · rintro ⟨_, read⟩
    obtain ⟨parts, lawful, same, _⟩ := statusLine_iff_parts.mp (statusLine?_sound read)
    exact ⟨parts, lawful, same⟩
  · rintro ⟨parts, lawful, same⟩
    exact ⟨_, statusLine?_complete (statusLine_iff_parts.mpr ⟨parts, lawful, same, rfl, rfl⟩)⟩

theorem statusLine?_eq_first (line : List Char) :
    statusLine? line = (Text.ways statusPattern line).head?.bind captured := by
  by_cases some : ∃ parts : StatusParts, parts.Lawful ∧ parts.line = line
  · obtain ⟨parts, lawful, rfl⟩ := some
    rw [Text.head?_ways (laid_firstWay lawful)]
    exact statusLine?_complete (statusLine_iff_parts.mpr ⟨parts, lawful, rfl, rfl, rfl⟩)
  · have none : Text.ways statusPattern line = [] := not_not.mp (mt ways_ne_nil_iff.mp some)
    have unread := Option.not_isSome_iff_eq_none.mp (mt statusLine?_isSome_iff.mp some)
    rw [none, unread]
    rfl

theorem parse_single {line : List Char} (single : '\n' ∉ line) :
    (parse (String.ofList line)).statuses.entries = (statusLine? line).toList := by
  have read : (Text.lines line).filterMap statusLine? = (statusLine? line).toList := by
    cases line with
    | nil => rfl
    | cons c rest =>
      rw [Text.lines_single single (List.cons_ne_nil _ _)]
      cases found : statusLine? (c :: rest) with
      | none => rw [List.filterMap_cons_none found, List.filterMap_nil, Option.toList_none]
      | some entry => rw [List.filterMap_cons_some found, List.filterMap_nil, Option.toList_some]
  rw [parse, String.toList_ofList, read]
  cases statusLine? line with
  | none => rfl
  | some entry => rfl

-- The grammar of a status line, its single reading, and the search, which finds no other one first.
theorem status_line_read_one_way (line : List Char) (single : '\n' ∉ line) :
    let report := parse (String.ofList line)
    let found := Text.ways statusPattern line
    (report.isEmpty = false ↔ ∃ parts : StatusParts, parts.Lawful ∧ parts.line = line) ∧
    (report.isEmpty = true ↔ found = []) ∧
    ∀ parts : StatusParts, parts.Lawful → parts.line = line →
      (∀ other : StatusParts, other.Lawful → other.line = line → other = parts) ∧
      ∃ host, IsShortName host parts.token ∧
        report.statuses.entries = [(String.ofList host, String.ofList parts.status)] ∧
        found.head?.bind captured = some (String.ofList host, String.ofList parts.status) ∧
        ∀ way ∈ found, ∃ front, front <+: host ∧
          captured way = some (String.ofList front, String.ofList parts.status) := by
  intro report found
  have entries : report.statuses.entries = (statusLine? line).toList := parse_single single
  have empty : report.isEmpty = !(statusLine? line).isSome := by
    change report.statuses.entries.isEmpty = _
    rw [entries]
    cases statusLine? line with
    | none => rfl
    | some entry => rfl
  refine ⟨?_, ?_, ?_⟩
  · rw [empty, Bool.not_eq_false', statusLine?_isSome_iff]
  · rw [empty, Bool.not_eq_true', ← Bool.not_eq_true, statusLine?_isSome_iff, ← ways_ne_nil_iff, not_not]
  · rintro parts lawful rfl
    have read := statusLine?_complete (statusLine_iff_parts.mpr ⟨parts, lawful, rfl, rfl, rfl⟩)
    refine ⟨fun other otherLawful same => lawful.unique otherLawful same, parts.host,
      isShortName_takeWhile parts.token, ?_, ?_, ?_⟩
    · rw [entries, read, Option.toList_some]
    · rw [← statusLine?_eq_first, read]
    · intro way tried
      obtain ⟨other, otherLawful, same, front, given, taken⟩ := parts_of_way tried
      obtain rfl := lawful.unique otherLawful same
      exact ⟨front, given, taken⟩

-- Bars wherever they can stand, blanks that are not spaces, and a carriage return that ends the status.
theorem bars_read_one_way :
    let parts : StatusParts := ⟨['|', '|', '.', 'm'], ['\u3000'], ['\u2003', ' '], ['|'], '\r', []⟩
    let line := ['|', '|', '.', 'm', '\u3000', '|', '\u2003', ' ', '|', '\r']
    '\n' ∉ line ∧ parts.Lawful ∧ parts.line = line ∧
      (parse (String.ofList line)).statuses.entries = [("||", "|")] ∧
      ((Text.ways statusPattern line).map captured) = [some ("||", "|"), some ("|", "|")] := by
  intro parts line
  have single : '\n' ∉ line := by decide
  have gap : Text.IsGap parts.gap := ⟨by decide, List.forall_mem_singleton.mpr (by decide)⟩
  have margin : Text.IsGap parts.margin :=
    ⟨by decide, List.forall_mem_cons.mpr ⟨by decide, List.forall_mem_singleton.mpr (by decide)⟩⟩
  have lawful : parts.Lawful := ⟨by decide, by decide, gap, margin, by decide, by decide⟩
  obtain ⟨_, _, read⟩ := status_line_read_one_way line single
  obtain ⟨_, host, short, entries, _⟩ := read parts lawful rfl
  have cut : host = ['|', '|'] := short.eq_takeWhile
  rw [cut] at entries
  have tried : (Text.ways statusPattern line).map captured = [some ("||", "|"), some ("|", "|")] := by
    decide +kernel
  exact ⟨single, lawful, rfl, entries, tried⟩

end ProbeReport

end TestbedWatchdog
