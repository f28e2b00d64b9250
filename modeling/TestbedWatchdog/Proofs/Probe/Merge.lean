import TestbedWatchdog.Proofs.Probe.Report
import TestbedWatchdog.Proofs.Text.Lines
import TestbedWatchdog.Proofs.Text.Utf8

namespace TestbedWatchdog.ProbeReport

variable {front back noise : List UInt8} {host : String}

-- Two reports as one, host by host. Neither has anyone missing if it comes from a text.
def merge (left right : ProbeReport) : ProbeReport where
  statuses := (HostSet.ofList (left.statuses.hosts ++ right.statuses.hosts)).filterMap fun host _ =>
    prevailing (left.statuses.get? host) (right.statuses.get? host)

theorem merge_get? (left right : ProbeReport) : (merge left right).statuses.get? host =
    prevailing (left.statuses.get? host) (right.statuses.get? host) := by
  unfold merge
  rw [HostTable.get?_filterMap]
  by_cases known : (HostSet.ofList (left.statuses.hosts ++ right.statuses.hosts)).contains host = true
  · obtain ⟨_, held⟩ := HostTable.contains_iff.mp known
    rw [held, Option.bind_some]
  · have unknown := known
    rw [HostTable.contains_ofList, List.mem_append, not_or, ← HostTable.contains_iff_mem_hosts,
      ← HostTable.contains_iff_mem_hosts] at unknown
    obtain ⟨notLeft, notRight⟩ := unknown
    simp only [HostTable.contains, Option.not_isSome_iff_eq_none] at known notLeft notRight
    rw [known, notLeft, notRight]
    rfl

def Complete (bytes : List UInt8) : Prop := bytes = [] ∨ bytes.getLast? = some 0x0A

theorem Complete.last (complete : Complete bytes) : ∀ last ∈ bytes.getLast?, last = 0x0A := by
  intro last ends
  rcases complete with rfl | newline
  · cases ends
  · exact Option.some.inj (ends.symm.trans newline)

def saidOf (host : String) (bytes : List UInt8) : List String :=
  told host ((Text.lines (Text.Utf8.lossy bytes)).filterMap statusLine?)

theorem parse_decoded_get? (bytes : List UInt8) :
    (parse (Text.decoded bytes)).statuses.get? host = verdict (saidOf host bytes) := by
  rw [parse_get?, Text.decoded_toList, saidOf]

theorem saidOf_append (complete : Complete front) :
    saidOf host (front ++ back) = saidOf host front ++ saidOf host back := by
  rw [saidOf, Text.Utf8.lossy_append complete.last,
    Text.lines_append (Text.Utf8.lossy_complete complete.last), List.filterMap_append]
  exact List.filterMap_append

theorem saidOf_eq_nil_iff :
    saidOf host noise = [] ↔ ∀ status, ¬ Tells (Text.Utf8.lossy noise) host status := by
  rw [saidOf, List.eq_nil_iff_forall_not_mem]
  simp only [mem_told]

theorem parse_append (complete : Complete front) : parse (Text.decoded (front ++ back)) =
    merge (parse (Text.decoded front)) (parse (Text.decoded back)) := by
  have same : (parse (Text.decoded (front ++ back))).statuses =
      (merge (parse (Text.decoded front)) (parse (Text.decoded back))).statuses := by
    apply HostTable.eq_of_get?
    intro host
    rw [merge_get?, parse_decoded_get?, parse_decoded_get?, parse_decoded_get?, saidOf_append complete,
      verdict_append]
  exact congrArg (ProbeReport.mk · HostTable.empty) same

-- Lines that are not about a host leave its status alone, wherever they come between other lines.
theorem parse_insert_get? (complete : Complete front) (whole : Complete noise)
    (silent : ∀ status, ¬ Tells (Text.Utf8.lossy noise) host status) :
    (parse (Text.decoded (front ++ noise ++ back))).statuses.get? host =
      (parse (Text.decoded (front ++ back))).statuses.get? host := by
  rw [List.append_assoc, parse_decoded_get?, parse_decoded_get?, saidOf_append complete,
    saidOf_append whole, saidOf_eq_nil_iff.mpr silent, List.nil_append, saidOf_append complete]

-- Complete lines are read apart from what follows them, and lines that say nothing change nothing.
theorem reports_merge_at_line_ends (front back : List UInt8)
    (complete : front = [] ∨ front.getLast? = some 0x0A) :
    parse (Text.decoded (front ++ back)) =
      merge (parse (Text.decoded front)) (parse (Text.decoded back)) ∧
    ∀ noise : List UInt8, (noise = [] ∨ noise.getLast? = some 0x0A) →
      (∀ host, (∀ line ∈ Text.lines (Text.Utf8.lossy noise), ∀ status, ¬ StatusLine line host status) →
        (parse (Text.decoded (front ++ noise ++ back))).statuses.get? host =
          (parse (Text.decoded (front ++ back))).statuses.get? host) ∧
      ((∀ line ∈ Text.lines (Text.Utf8.lossy noise), ∀ host status, ¬ StatusLine line host status) →
        parse (Text.decoded (front ++ noise ++ back)) = parse (Text.decoded (front ++ back))) := by
  refine ⟨parse_append complete, fun noise whole => ?_⟩
  have kept (host : String)
      (other : ∀ line ∈ Text.lines (Text.Utf8.lossy noise), ∀ status, ¬ StatusLine line host status) :
      (parse (Text.decoded (front ++ noise ++ back))).statuses.get? host =
        (parse (Text.decoded (front ++ back))).statuses.get? host := by
    refine parse_insert_get? complete whole ?_
    rintro status ⟨line, present, spoken⟩
    exact other line present status spoken
  refine ⟨kept, fun garbage => ?_⟩
  have same := HostTable.eq_of_get? fun host => kept host fun line present => garbage line present host
  exact congrArg (ProbeReport.mk · HostTable.empty) same

-- A character that breaks off at the end of its line, a byte that is none, and both lines of a host.
theorem broken_bytes_between_lines :
    let row (text : String) : List UInt8 := text.toList.map (·.toNat.toUInt8) ++ [0x0A]
    let front := row "n1.a | SUCCESS => x"
    let noise : List UInt8 := [0xE2, 0x82, 0x0A, 0xFF, 0x0D, 0x0A]
    let back := row "n1.b | DOWN => x" ++ [0xF0, 0x9F]
    front.getLast? = some 0x0A ∧ noise.getLast? = some 0x0A ∧
      Text.lines (Text.Utf8.lossy noise) = [['\uFFFD'], ['\uFFFD']] ∧
      (merge (parse (Text.decoded front)) (parse (Text.decoded back))).statuses.entries = [("n1", "DOWN")] ∧
      (parse (Text.decoded (front ++ noise ++ back))).statuses.entries = [("n1", "DOWN")] := by
  intro row front noise back
  have closed : front.getLast? = some 0x0A := by decide +kernel
  have whole : noise.getLast? = some 0x0A := by decide
  have read : Text.lines (Text.Utf8.lossy noise) = [['\uFFFD'], ['\uFFFD']] := by decide +kernel
  have merged : (merge (parse (Text.decoded front)) (parse (Text.decoded back))).statuses.entries =
      [("n1", "DOWN")] := by decide +kernel
  obtain ⟨apart, inserted⟩ := reports_merge_at_line_ends front back (.inr closed)
  have garbage : ∀ line ∈ Text.lines (Text.Utf8.lossy noise),
      ∀ host status, ¬ StatusLine line host status := by
    have unread : ∀ line ∈ [['\uFFFD'], ['\uFFFD']], statusLine? line = none := by decide
    intro line present host status spoken
    rw [read] at present
    have found := statusLine?_complete spoken
    rw [unread line present] at found
    cases found
  refine ⟨closed, whole, read, merged, ?_⟩
  rw [(inserted noise (.inr whole)).2 garbage, apart]
  exact merged

end TestbedWatchdog.ProbeReport
