import Mathlib.Data.List.Induction
import TestbedWatchdog.Proofs.Lookup
import TestbedWatchdog.Proofs.Probe.StatusLine

namespace TestbedWatchdog

namespace ProbeReport

variable {found : List (String × String)} {statuses : HostTable String} {host name status : String}

-- What several statuses come to: the first failure, or success if there is no failure.
def verdict (said : List String) : Option String := said.find? (· ≠ answered) <|> said.head?

-- What two words of one host come to: the first stays, unless it is missing or success and there is a
-- second to take its place.
def prevailing (first second : Option String) : Option String :=
  if first = none ∨ first = some answered then second.or first else first

theorem verdict_append {one two : List String} :
    verdict (one ++ two) = prevailing (verdict one) (verdict two) := by
  unfold verdict
  rw [List.find?_append]
  cases failure : one.find? (· ≠ answered) with
  | some first =>
    have failed : first ≠ answered := by simpa using List.find?_some failure
    simp [prevailing, failed]
  | none =>
    cases one with
    | nil => simp [prevailing]
    | cons first later =>
      have fine : first = answered := by simpa using List.find?_eq_none.mp failure first List.mem_cons_self
      cases second : two.find? (· ≠ answered) with
      | some other => simp [prevailing, fine]
      | none =>
        -- two words of success, of which either may stay
        cases two with
        | nil => simp [prevailing]
        | cons other more =>
          have same : other = answered := by simpa using List.find?_eq_none.mp second other List.mem_cons_self
          simp [prevailing, fine, same]

theorem verdict_singleton (status : String) : verdict [status] = some status := by
  by_cases same : status = answered <;> simp [verdict, same]

theorem verdict_eq_none_iff : verdict said = none ↔ said = [] := by
  cases said with
  | nil => exact ⟨fun _ => rfl, fun _ => rfl⟩
  | cons first later => simp [verdict]

theorem verdict_answered_iff :
    verdict said = some answered ↔
      (∃ status, status ∈ said) ∧ ∀ status ∈ said, status = answered := by
  unfold verdict
  cases failure : said.find? (· ≠ answered) with
  | some first =>
    have failed : first ≠ answered := by simpa using List.find?_some failure
    have present := List.mem_of_find?_eq_some failure
    constructor
    · intro same
      exact absurd (Option.some.inj same) failed
    · intro fine
      exact absurd (fine.2 first present) failed
  | none =>
    have all : ∀ status ∈ said, status = answered := by simpa using failure
    cases said with
    | nil => simp
    | cons first later =>
      have fine : first = answered := all first List.mem_cons_self
      constructor
      · intro _
        exact ⟨⟨first, List.mem_cons_self⟩, all⟩
      · intro _
        exact congrArg some fine

theorem verdict_failed_iff :
    (verdict said).any (· ≠ answered) = true ↔ ∃ status ∈ said, status ≠ answered := by
  have none := @verdict_eq_none_iff said
  have fine := @verdict_answered_iff said
  cases judged : verdict said with
  | none => simp [none.mp judged]
  | some first =>
    have present : ∃ status, status ∈ said :=
      List.exists_mem_of_ne_nil said fun empty => by simp [none.mpr empty] at judged
    rw [judged, Option.some.injEq] at fine
    simp [fine, present]

theorem mem_of_verdict (judged : verdict said = some status) : status ∈ said := by
  unfold verdict at judged
  cases failure : said.find? (· ≠ answered) with
  | some first =>
    rw [failure] at judged
    obtain rfl : first = status := by simpa using judged
    exact List.mem_of_find?_eq_some failure
  | none =>
    rw [failure] at judged
    exact List.mem_of_mem_head? (by simpa using judged)

theorem verdict_unanimous (spoken : said ≠ []) (same : ∀ other ∈ said, other = status) :
    verdict said = some status := by
  cases judged : verdict said with
  | none => exact absurd (verdict_eq_none_iff.mp judged) spoken
  | some other => rw [same other (mem_of_verdict judged)]

def told (host : String) (found : List (String × String)) : List String :=
  found.filterMap fun entry => if host = entry.1 then some entry.2 else none

theorem note_get? (entry : String × String) : (note statuses entry).get? host =
    if host = entry.1 then prevailing (statuses.get? host) (some entry.2) else statuses.get? host := by
  unfold note
  by_cases same : host = entry.1
  · subst host
    cases held : statuses.get? entry.1 with
    | none => simp [prevailing]
    | some earlier => by_cases fine : earlier = answered <;> simp [prevailing, fine, held]
  · cases held : statuses.get? entry.1 with
    | none => simp [same]
    | some earlier => by_cases fine : earlier = answered <;> simp [fine, same]

theorem foldl_note_get? : (found.foldl note HostTable.empty).get? host = verdict (told host found) := by
  induction found using List.reverseRecOn with
  | nil => rfl
  | append_singleton earlier entry ih =>
    rw [List.foldl_append, List.foldl_cons, List.foldl_nil, note_get?, ih]
    by_cases same : host = entry.1
    · simp [told, same, verdict_append, verdict_singleton]
    · simp [told, same]

def Tells (text : List Char) (host status : String) : Prop :=
  ∃ line ∈ Text.lines text, StatusLine line host status

theorem mem_told {text : List Char} :
    status ∈ told host ((Text.lines text).filterMap statusLine?) ↔ Tells text host status := by
  unfold told Tells
  simp only [List.mem_filterMap, Option.ite_none_right_eq_some, Option.some.injEq]
  constructor
  · intro given
    obtain ⟨⟨name, said⟩, ⟨line, present, read⟩, rfl, rfl⟩ := given
    exact ⟨line, present, statusLine?_eq_some_iff.mp read⟩
  · intro given
    obtain ⟨line, present, spoken⟩ := given
    exact ⟨(host, status), ⟨line, present, statusLine?_eq_some_iff.mpr spoken⟩, rfl, rfl⟩

theorem parse_get? (output : String) : (parse output).statuses.get? host =
    verdict (told host ((Text.lines output.toList).filterMap statusLine?)) :=
  foldl_note_get?

theorem parse_silent_iff {output : String} :
    (parse output).statuses.get? host = none ↔ ∀ status, ¬ Tells output.toList host status := by
  rw [parse_get?, verdict_eq_none_iff, List.eq_nil_iff_forall_not_mem]
  simp only [mem_told]

theorem parse_failed_iff {output : String} :
    ((parse output).statuses.get? host).any (· ≠ answered) = true ↔
      ∃ status, Tells output.toList host status ∧ status ≠ answered := by
  rw [parse_get?, verdict_failed_iff]
  simp only [mem_told]

theorem parse_answered_iff {output : String} :
    (parse output).statuses.get? host = some answered ↔
      (∃ status, Tells output.toList host status) ∧
        ∀ status, Tells output.toList host status → status = answered := by
  rw [parse_get?, verdict_answered_iff]
  simp only [mem_told]

def HasStatusLine (text : List Char) : Prop :=
  ∃ line ∈ Text.lines text, ∃ host status, StatusLine line host status

theorem isEmpty_parse_iff (output : String) :
    (parse output).isEmpty = true ↔ ¬ HasStatusLine output.toList := by
  rw [isEmpty, HostTable.isEmpty_iff]
  simp only [parse_silent_iff, Tells, HasStatusLine]
  constructor
  · rintro silent ⟨line, present, host, status, spoken⟩
    exact silent host status ⟨line, present, spoken⟩
  · rintro silent host status ⟨line, present, spoken⟩
    exact silent ⟨line, present, host, status, spoken⟩

theorem sift_statuses {hosts : List String} {left : HostTable String} {found : ProbeReport} :
    (sift hosts left found).statuses.get? name =
      if name ∈ hosts then (left.get? name).or (found.statuses.get? name)
      else found.statuses.get? name := by
  induction hosts generalizing left found with
  | nil => simp [sift]
  | cons host rest ih =>
    unfold sift
    cases held : left.get? host with
    | some status =>
      simp only [ih]
      by_cases same : name = host
      · subst name
        by_cases again : host ∈ rest <;> simp [again, held]
      · simp [same]
    | none =>
      simp only [ih]
      by_cases same : name = host
      · subst name
        by_cases again : host ∈ rest <;> simp [again, held]
      · simp [same]

-- A host is handed out once, so the second time it stands in the list it is missing.
theorem sift_missing {hosts : List String} {left : HostTable String} {found : ProbeReport} :
    (sift hosts left found).missing.contains name = true ↔
      found.missing.contains name = true ∨
        name ∈ hosts ∧ (left.get? name = none ∨ 1 < hosts.count name) := by
  induction hosts generalizing left found with
  | nil => simp [sift]
  | cons host rest ih =>
    unfold sift
    cases held : left.get? host with
    | some status =>
      simp only [ih]
      by_cases same : name = host
      · subst name
        simp [held]
      · simp [same, List.count_cons_of_ne (Ne.symm same)]
    | none =>
      simp only [ih, HostTable.contains_insert]
      by_cases same : name = host
      · subst name
        simp [held]
      · simp [same, List.count_cons_of_ne (Ne.symm same)]

theorem restrictTo_statuses {report : ProbeReport} {hosts : List String} :
    (report.restrictTo hosts).statuses.get? name =
      if hosts = [] ∨ name ∈ hosts then report.statuses.get? name else none := by
  unfold restrictTo
  by_cases listed : hosts = []
  · simp [listed]
  · simp [listed, sift_statuses]

theorem restrictTo_missing_of_any {report : ProbeReport} {hosts : List String} (listed : hosts ≠ []) :
    (report.restrictTo hosts).missing.contains name = true ↔
      name ∈ hosts ∧ (report.statuses.get? name = none ∨ 1 < hosts.count name) := by
  have nothing : (HostTable.empty : HostSet).contains name = false := rfl
  unfold restrictTo
  simp [listed, sift_missing, nothing]

theorem restrictTo_missing {report : ProbeReport} {hosts : List String} (listed : hosts ≠ [])
    (distinct : hosts.Nodup) : (report.restrictTo hosts).missing.contains name = true ↔
      name ∈ hosts ∧ report.statuses.get? name = none := by
  have once : ¬ 1 < hosts.count name := Nat.not_lt.mpr (List.nodup_iff_count_le_one.mp distinct name)
  rw [restrictTo_missing_of_any listed]
  simp [once]

theorem restrictTo_partition {report : ProbeReport} {hosts : List String} (listed : hosts ≠ [])
    (distinct : hosts.Nodup) :
    ((report.restrictTo hosts).statuses.hosts ++ (report.restrictTo hosts).missing.hosts).Perm hosts := by
  have spoken (name : String) : name ∈ (report.restrictTo hosts).statuses.hosts ↔
      name ∈ hosts ∧ report.statuses.get? name ≠ none := by
    rw [HostTable.mem_hosts_iff, restrictTo_statuses]
    by_cases member : name ∈ hosts <;> simp [member, listed, Option.ne_none_iff_exists']
  have silent (name : String) : name ∈ (report.restrictTo hosts).missing.hosts ↔
      name ∈ hosts ∧ report.statuses.get? name = none := by
    rw [← HostTable.contains_iff_mem_hosts, restrictTo_missing listed distinct]
  apply (List.perm_ext_iff_of_nodup ?_ distinct).mpr
  · intro name
    rw [List.mem_append, spoken, silent]
    cases report.statuses.get? name <;> simp
  · refine List.nodup_append.mpr ⟨HostTable.hosts_nodup _, HostTable.hosts_nodup _, ?_⟩
    intro one first two second same
    exact ((spoken one).mp first).2 (same ▸ ((silent two).mp second).2)

end ProbeReport

end TestbedWatchdog
