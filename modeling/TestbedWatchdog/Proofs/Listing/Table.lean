import TestbedWatchdog.Listing
import TestbedWatchdog.Proofs.Text.Lines

namespace TestbedWatchdog

namespace Text

def words (text : List Char) : List (List Char) := (text.splitOnP isBlank).filter (· ≠ [])

variable {text front back : List Char} {c : Char}

theorem words_append_blank (blank : isBlank c = true) : words (front ++ c :: back) = words front ++ words back := by
  rw [words, List.splitOnP_append_cons _ _ blank, List.filter_append]
  rfl

theorem IsWord.words (word : IsWord text) : words text = [text] := by
  rw [Text.words, List.splitOnP_eq_singleton word.ink]
  simp [word.some]

theorem words_blanks (blank : ∀ c ∈ text, isBlank c = true) : words text = [] := by
  induction text with
  | nil => simp [words, List.splitOnP_nil]
  | cons c later ih =>
    obtain ⟨first, rest⟩ := List.forall_mem_cons.mp blank
    rw [← List.nil_append (c :: later), words_append_blank first, ih rest]
    simp [words, List.splitOnP_nil]

theorem IsWord.words_filled (word : IsWord text) (blank : ∀ c ∈ back, isBlank c = true) :
    Text.words (text ++ back) = [text] := by
  cases back with
  | nil => rw [List.append_nil, word.words]
  | cons c later =>
    obtain ⟨first, rest⟩ := List.forall_mem_cons.mp blank
    rw [words_append_blank first, word.words, words_blanks rest]
    rfl

end Text

namespace Listing

theorem paragraph_toList (lines : List String) :
    (paragraph lines).toList = (lines.map String.toList).flatMap (· ++ ['\n']) := by
  have newline : "\n".toList = ['\n'] := by decide
  simp only [paragraph, String.toList_join, List.flatMap_map, String.toList_append, newline]

theorem lines_paragraph {lines : List String} (plain : ∀ line ∈ lines, ∀ c ∈ line.toList, Text.IsPlain c) :
    Text.lines (paragraph lines).toList = lines.map String.toList := by
  rw [paragraph_toList]
  apply Text.lines_flatMap_newline
  intro line present
  obtain ⟨line, listed, rfl⟩ := List.mem_map.mp present
  exact plain line listed

def body (table : String) : List (List Char) :=
  ((Text.lines table.toList).dropWhile (· ≠ dashes.toList)).tail

def readRows (table : String) : List (List String) :=
  ((body table).takeWhile (· ≠ [])).map fun line => (Text.words line).map String.ofList

def readVerdict (table : String) : List String :=
  ((body table).dropWhile (· ≠ [])).tail.map String.ofList

variable {host status : String}

def filling (width : Nat) (text : String) : List Char := List.replicate (width - text.length) ' '

theorem filling_blank (width : Nat) (text : String) : ∀ c ∈ filling width text, Text.isBlank c = true := by
  intro c present
  rw [List.eq_of_mem_replicate present]
  decide

theorem filling_plain (width : Nat) (text : String) : ∀ c ∈ filling width text, Text.IsPlain c := by
  intro c present
  rw [List.eq_of_mem_replicate present]
  decide

theorem row_toList (host status : String) : (row host status).toList =
    (host.toList ++ filling 24 host) ++ ' ' :: (status.toList ++ filling 16 status) := by
  have blank : " ".toList = [' '] := by decide
  simp only [row, column, String.toList_append, String.toList_ofList, blank, filling, List.append_assoc,
    List.cons_append, List.nil_append]

theorem words_row (named : Text.IsWord host.toList) (stated : Text.IsWord status.toList) :
    Text.words (row host status).toList = [host.toList, status.toList] := by
  rw [row_toList, Text.words_append_blank (by decide), named.words_filled (filling_blank _ _),
    stated.words_filled (filling_blank _ _)]
  rfl

theorem row_ne_nil (host status : String) : (row host status).toList ≠ [] := by
  rw [row_toList]
  exact List.append_ne_nil_of_right_ne_nil _ (List.cons_ne_nil _ _)

theorem row_plain (named : Text.IsWord host.toList) (stated : Text.IsWord status.toList) :
    ∀ c ∈ (row host status).toList, Text.IsPlain c := by
  have blank : Text.IsPlain ' ' := by decide
  rw [row_toList]
  simp only [List.forall_mem_append, List.forall_mem_cons]
  exact ⟨⟨named.plain, filling_plain 24 host⟩, blank, stated.plain, filling_plain 16 status⟩

theorem numeral_digits (n : Nat) : ∀ c ∈ (toString n).toList, c.isDigit = true := by
  intro c present
  rw [Nat.toString_eq_repr, Nat.toList_repr] at present
  exact Nat.isDigit_of_mem_toDigits (by decide) (by decide) present

theorem numeral_plain (n : Nat) : ∀ c ∈ (toString n).toList, Text.IsPlain c := by
  intro c present
  have digit := numeral_digits n c present
  constructor
  · rintro rfl
    cases digit
  · rintro rfl
    cases digit

theorem verdict_plain (report : ProbeReport) : ∀ c ∈ (verdict report).toList, Text.IsPlain c := by
  have all : ∀ c ∈ "All ".toList, Text.IsPlain c := List.all_iff_forall_prop.mp (by decide)
  have reachable : ∀ c ∈ " hosts reachable".toList, Text.IsPlain c := List.all_iff_forall_prop.mp (by decide)
  have among : ∀ c ∈ " of ".toList, Text.IsPlain c := List.all_iff_forall_prop.mp (by decide)
  have unreachable : ∀ c ∈ " hosts unreachable".toList, Text.IsPlain c :=
    List.all_iff_forall_prop.mp (by decide)
  unfold verdict
  split
  · simp only [String.toList_append, List.forall_mem_append]
    exact ⟨⟨all, numeral_plain _⟩, reachable⟩
  · simp only [String.toList_append, List.forall_mem_append]
    exact ⟨⟨⟨numeral_plain _, among⟩, numeral_plain _⟩, unreachable⟩

end Listing

structure ProbeReport.Worded (report : ProbeReport) : Prop where
  told : ∀ entry ∈ report.statuses.entries, Text.IsWord entry.1.toList ∧ Text.IsWord entry.2.toList
  missing : ∀ host ∈ report.missing.hosts, Text.IsWord host.toList

namespace Listing

variable {report : ProbeReport}

def shown (report : ProbeReport) : List (String × String) :=
  report.statuses.entries ++ report.missing.hosts.map (·, "-")

theorem rows_eq (report : ProbeReport) : rows report = (shown report).map fun entry => row entry.1 entry.2 := by
  rw [shown, List.map_append, List.map_map]
  rfl

theorem shown_words (worded : report.Worded) :
    ∀ entry ∈ shown report, Text.IsWord entry.1.toList ∧ Text.IsWord entry.2.toList := by
  intro entry present
  rcases List.mem_append.mp present with told | silent
  · exact worded.told entry told
  · obtain ⟨host, listed, rfl⟩ := List.mem_map.mp silent
    have dash : Text.IsWord "-".toList := by decide
    exact ⟨worded.missing host listed, dash⟩

theorem dashes_toList : dashes.toList = List.replicate 40 '-' := String.toList_ofList

theorem dashes_plain : ∀ c ∈ dashes.toList, Text.IsPlain c := by
  have dash : Text.IsPlain '-' := by decide
  rw [dashes_toList]
  intro c present
  rw [List.eq_of_mem_replicate present]
  exact dash

theorem probeTable_plain (worded : report.Worded) :
    ∀ line ∈ [row "HOST" "STATUS", dashes] ++ rows report ++ ["", verdict report],
      ∀ c ∈ line.toList, Text.IsPlain c := by
  have host : Text.IsWord "HOST".toList := by decide
  have status : Text.IsWord "STATUS".toList := by decide
  intro line present
  rcases List.mem_append.mp present with front | back
  · rcases List.mem_append.mp front with head | listed
    · rcases List.mem_cons.mp head with rfl | second
      · exact row_plain host status
      · rw [List.mem_singleton.mp second]
        exact dashes_plain
    · rw [rows_eq] at listed
      obtain ⟨entry, told, rfl⟩ := List.mem_map.mp listed
      obtain ⟨named, stated⟩ := shown_words worded entry told
      exact row_plain named stated
  · rcases List.mem_cons.mp back with rfl | last
    · exact List.forall_mem_nil _
    · rw [List.mem_singleton.mp last]
      exact verdict_plain report

theorem body_probeTable (worded : report.Worded) : body (probeTable report) =
    (shown report).map (fun entry => (row entry.1 entry.2).toList) ++ [[], (verdict report).toList] := by
  have header : (row "HOST" "STATUS").toList ≠ dashes.toList := by decide +kernel
  rw [body, probeTable, lines_paragraph (probeTable_plain worded), rows_eq]
  simp [header]

-- A row has ink on it, so the first empty line is the one behind the rows.
theorem span_body (worded : report.Worded) :
    (body (probeTable report)).takeWhile (· ≠ []) =
        (shown report).map (fun entry => (row entry.1 entry.2).toList) ∧
      (body (probeTable report)).dropWhile (· ≠ []) = [[], (verdict report).toList] := by
  have inked : ∀ line ∈ (shown report).map fun entry => (row entry.1 entry.2).toList,
      decide (line ≠ []) = true := by
    intro line present
    obtain ⟨entry, _, rfl⟩ := List.mem_map.mp present
    exact decide_eq_true (row_ne_nil _ _)
  rw [body_probeTable worded, List.takeWhile_append_of_pos inked, List.dropWhile_append_of_pos inked]
  simp

theorem readRows_probeTable (worded : report.Worded) :
    readRows (probeTable report) = (shown report).map fun entry => [entry.1, entry.2] := by
  rw [readRows, (span_body worded).1, List.map_map]
  refine List.map_congr_left fun entry present => ?_
  obtain ⟨named, stated⟩ := shown_words worded entry present
  simp [words_row named stated]

theorem readVerdict_probeTable (worded : report.Worded) :
    readVerdict (probeTable report) = [verdict report] := by
  rw [readVerdict, (span_body worded).2]
  simp

end Listing

end TestbedWatchdog
