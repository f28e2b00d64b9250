import TestbedWatchdog.Proofs.Listing.Table
import TestbedWatchdog.Proofs.Probe.Report
import TestbedWatchdog.Proofs.Session.Display

namespace TestbedWatchdog.ProbeReport

variable {called : String → String} {session : Session} {statuses : HostTable String}

-- What a status line can say: a host that goes by one word up to its first dot, and a status in one word.
structure Reportable (host status : String) : Prop where
  named : Text.IsWord host.toList
  short : '.' ∉ host.toList
  stated : Text.IsWord status.toList

instance (host status : String) : Decidable (Reportable host status) :=
  decidable_of_iff (Text.IsWord host.toList ∧ '.' ∉ host.toList ∧ Text.IsWord status.toList)
    ⟨fun parts => ⟨parts.1, parts.2.1, parts.2.2⟩, fun line => ⟨line.named, line.short, line.stated⟩⟩

-- The ways in which the ping tool calls hosts: by their own names, or by their full names in a
-- materialization that a session tool has named.
inductive Naming : (String → String) → Prop
  | bare : Naming id
  | full {session : Session} (named : Session.parse? output = some session) : Naming session.qualify

def Recognizable (called : String → String) : Prop :=
  ∀ host, Text.IsWord host.toList → '.' ∉ host.toList →
    (∀ c ∈ (called host).toList, Text.isBlank c = false) ∧
      (called host).toList.takeWhile (· ≠ '.') = host.toList

theorem takeWhile_short {name suffix : List Char} (short : '.' ∉ name)
    (ends : ∀ c ∈ suffix.head?, c = '.') : (name ++ suffix).takeWhile (· ≠ '.') = name := by
  have fits : ∀ c ∈ name, decide (c ≠ '.') = true := by
    intro c present
    rw [decide_eq_true_eq]
    rintro rfl
    exact short present
  rw [List.takeWhile_append_of_pos fits]
  cases suffix with
  | nil => simp
  | cons c later =>
    obtain rfl := ends c rfl
    simp

theorem recognizable_id : Recognizable id := by
  intro host word short
  refine ⟨word.ink, ?_⟩
  simpa using @takeWhile_short host.toList [] short (by simp)

theorem recognizable_qualify (worded : session.IsWorded) : Recognizable session.qualify := by
  intro host word short
  have dot : ".".toList = ['.'] := by decide
  have full : (session.qualify host).toList = host.toList ++ (['.'] ++
      (session.materialization.toList ++ (['.'] ++ (session.experiment.toList ++
        (['.'] ++ session.project.toList))))) := by
    rw [Session.qualify, String.toList_append, String.toList_append, String.toList_append,
      String.toList_append, String.toList_append, String.toList_append, dot]
    simp only [List.append_assoc]
  have ink : Text.isBlank '.' = false := by decide
  rw [full]
  refine ⟨?_, takeWhile_short short (by simp)⟩
  simp only [List.forall_mem_append, List.forall_mem_singleton]
  exact ⟨word.ink, ink, worded.materialization.ink, ink, worded.experiment.ink, ink, worded.project.ink⟩

theorem Naming.recognizable (naming : Naming called) : Recognizable called := by
  cases naming with
  | bare => exact recognizable_id
  | full named => exact recognizable_qualify (Session.isWorded_of_parse? named)

def row (called : String → String) (entry : String × String) : String :=
  called entry.1 ++ " | " ++ entry.2 ++ " => \x7b\x7d"

def transcript (called : String → String) (entries : List (String × String)) : String :=
  Listing.paragraph (entries.map (row called))

theorem row_toList (entry : String × String) : (row called entry).toList =
    (called entry.1).toList ++ ([' '] ++ '|' :: ([' '] ++ (entry.2.toList ++ ' ' ::
      "=> \x7b\x7d".toList))) := by
  have bar : " | ".toList = [' '] ++ '|' :: [' '] := by decide
  have behind : " => \x7b\x7d".toList = ' ' :: "=> \x7b\x7d".toList := by decide
  calc
    (row called entry).toList =
        (called entry.1).toList ++ " | ".toList ++ entry.2.toList ++ " => \x7b\x7d".toList := by
      rw [row, String.toList_append, String.toList_append, String.toList_append]
    _ = _ := by
      rw [bar, behind]
      simp only [List.append_assoc, List.cons_append]

theorem row_status (recognizable : Recognizable called) (reportable : Reportable host status) :
    StatusLine (row called (host, status)).toList host status := by
  obtain ⟨ink, front⟩ := recognizable host reportable.named reportable.short
  have blank : ∀ c ∈ [' '], Text.isBlank c = true := List.forall_mem_singleton.mpr (by decide)
  have gap : [' '] ≠ [] := List.cons_ne_nil _ _
  have parts := @StatusLine.parts (called host).toList [' '] [' '] status.toList
    "=> \x7b\x7d".toList ' ' ink (front ▸ reportable.named.some) blank gap blank gap reportable.stated.ink
    reportable.stated.some (by decide)
  rw [front, String.ofList_toList, String.ofList_toList] at parts
  rw [row_toList]
  exact parts

theorem row_ne_nil (entry : String × String) : (row called entry).toList ≠ [] := by
  rw [row_toList]
  exact List.append_ne_nil_of_right_ne_nil _ (List.cons_ne_nil _ _)

theorem row_plain (recognizable : Recognizable called) (reportable : Reportable host status) :
    ∀ c ∈ (row called (host, status)).toList, Text.IsPlain c := by
  obtain ⟨ink, _⟩ := recognizable host reportable.named reportable.short
  have blank : Text.IsPlain ' ' := by decide
  have bar : Text.IsPlain '|' := by decide
  have behind : ∀ c ∈ "=> \x7b\x7d".toList, Text.IsPlain c :=
    List.all_iff_forall_prop.mp (by decide)
  rw [row_toList]
  simp only [List.cons_append, List.nil_append, List.forall_mem_append, List.forall_mem_cons]
  exact ⟨fun c present => Text.isPlain_of_ink (ink c present), blank, bar, blank,
    reportable.stated.plain, blank, behind⟩

theorem transcript_lines (recognizable : Recognizable called)
    (reportable : ∀ entry ∈ entries, Reportable entry.1 entry.2) :
    (Text.lines (transcript called entries).toList).filterMap statusLine? = entries := by
  have plain : ∀ line ∈ entries.map (row called), ∀ c ∈ line.toList, Text.IsPlain c := by
    intro line present
    obtain ⟨entry, listed, rfl⟩ := List.mem_map.mp present
    exact row_plain recognizable (reportable entry listed)
  rw [transcript, Listing.lines_paragraph plain, List.map_map, List.filterMap_map]
  have read : ∀ entry ∈ entries,
      (statusLine? ∘ (String.toList ∘ row called)) entry = some entry :=
    fun entry listed => statusLine?_complete (row_status recognizable (reportable entry listed))
  rw [List.filterMap_congr read, List.filterMap_some]

-- A table gives each host one status, so a list of its entries holds no clash.
theorem verdict_told_entries (listed : ∀ entry, entry ∈ entries ↔ entry ∈ statuses.entries)
    (host : String) : verdict (told host entries) = statuses.get? host := by
  have said (status : String) : status ∈ told host entries ↔ statuses.get? host = some status := by
    simp only [told, List.mem_filterMap, Option.ite_none_right_eq_some, Option.some.injEq, listed,
      HostTable.get?_eq_some_iff]
    constructor
    · rintro ⟨⟨name, status⟩, present, rfl, rfl⟩
      exact present
    · intro present
      exact ⟨(host, status), present, rfl, rfl⟩
  cases held : statuses.get? host with
  | none =>
    apply verdict_eq_none_iff.mpr
    apply List.eq_nil_iff_forall_not_mem.mpr
    intro status spoken
    rw [said, held] at spoken
    cases spoken
  | some status =>
    apply verdict_unanimous
    · exact List.ne_nil_of_mem ((said status).mpr held)
    · intro other spoken
      rw [said, held] at spoken
      exact (Option.some.inj spoken).symm

theorem parse_transcript (recognizable : Recognizable called)
    (reportable : ∀ entry ∈ statuses.entries, Reportable entry.1 entry.2)
    (listed : ∀ entry, entry ∈ entries ↔ entry ∈ statuses.entries) :
    parse (transcript called entries) = { statuses := statuses } := by
  have lines := transcript_lines recognizable fun entry present => reportable entry ((listed entry).mp present)
  have same : (parse (transcript called entries)).statuses = statuses := by
    apply HostTable.eq_of_get?
    intro host
    rw [parse_get?, lines, verdict_told_entries listed]
  exact congrArg (ProbeReport.mk · HostTable.empty) same

theorem reportable_of_line (spoken : StatusLine line host status) : Reportable host status := by
  cases spoken with
  | @parts token _ _ status _ _ tokenInk named _ _ _ _ statusInk stated _ =>
    constructor
    · rw [String.toList_ofList]
      exact ⟨named, fun c taken => tokenInk c (List.takeWhile_subset _ taken)⟩
    · rw [String.toList_ofList]
      intro dotted
      have free := List.mem_takeWhile_imp dotted
      simp at free
    · rw [String.toList_ofList]
      exact ⟨stated, statusInk⟩

theorem parse_reportable (output : String) :
    ∀ entry ∈ (parse output).statuses.entries, Reportable entry.1 entry.2 := by
  intro entry present
  have judged := (parse_get? output).symm.trans (HostTable.get?_eq_some_iff.mpr present)
  obtain ⟨line, _, spoken⟩ := mem_told.mp (mem_of_verdict judged)
  exact reportable_of_line spoken

-- A table of statuses survives being written, in any order of its entries, and read; and what is read from
-- any text is such a table, so that writing and reading it once more changes nothing.
theorem parse_inverts_transcript (naming : Naming called) :
    (∀ (statuses : HostTable String) (entries : List (String × String)),
      (∀ entry ∈ statuses.entries, Reportable entry.1 entry.2) →
      (∀ entry, entry ∈ entries ↔ entry ∈ statuses.entries) →
      parse (transcript called entries) = { statuses := statuses, missing := HostTable.empty }) ∧
    ∀ output, (∀ entry ∈ (parse output).statuses.entries, Reportable entry.1 entry.2) ∧
      (parse output).missing = HostTable.empty ∧
      ∀ entries, (∀ entry, entry ∈ entries ↔ entry ∈ (parse output).statuses.entries) →
        parse (transcript called entries) = parse output := by
  constructor
  · intro statuses entries reportable listed
    exact parse_transcript naming.recognizable reportable listed
  · intro output
    refine ⟨parse_reportable output, rfl, ?_⟩
    intro entries listed
    exact parse_transcript naming.recognizable (parse_reportable output) listed

-- Two hosts in the order that is not theirs, one of them by a name beyond the Latin letters.
theorem parse_transcript_full_names :
    let session : Session := ⟨"dcomp", "map-exp", "real"⟩
    let statuses := (HostTable.empty.insert "β1" "SUCCESS").insert "n1" "UNREACHABLE!"
    let entries := [("β1", "SUCCESS"), ("n1", "UNREACHABLE!")]
    let text := "β1.real.map-exp.dcomp | SUCCESS => \x7b\x7d\n" ++
      "n1.real.map-exp.dcomp | UNREACHABLE! => \x7b\x7d\n"
    Session.parse? "Materialization: dcomp map-exp real\n" = some session ∧
      transcript session.qualify entries = text ∧ entries ≠ statuses.entries ∧
      parse text = { statuses := statuses } ∧
      parse (transcript session.qualify (parse text).statuses.entries) = parse text := by
  intro session statuses entries text
  have named : Session.parse? "Materialization: dcomp map-exp real\n" = some session := by decide +kernel
  have written : transcript session.qualify entries = text := by decide +kernel
  have shuffled : entries ≠ statuses.entries := by decide +kernel
  have reportable : ∀ entry ∈ statuses.entries, Reportable entry.1 entry.2 := by decide +kernel
  have reversed : statuses.entries = entries.reverse := by decide +kernel
  obtain ⟨inverse, again⟩ := parse_inverts_transcript (.full named)
  have read := inverse statuses entries reportable fun entry => by rw [reversed, List.mem_reverse]
  exact ⟨named, written, shuffled, written ▸ read, (again text).2.2 _ fun _ => Iff.rfl⟩

end TestbedWatchdog.ProbeReport
