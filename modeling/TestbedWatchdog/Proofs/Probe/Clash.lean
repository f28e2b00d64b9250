import TestbedWatchdog.Proofs.Course.Host
import TestbedWatchdog.Proofs.Probe.Report

namespace TestbedWatchdog.ProbeReport

-- Independent rules for what lines say about a host: one status for each line that is about the host.
inductive Heard (host : String) : List (List Char) → List String → Prop
  | done : Heard host [] []
  | spoken (about : StatusLine line host status) (later : Heard host lines said) :
      Heard host (line :: lines) (status :: said)
  | silent (other : ∀ status, ¬ StatusLine line host status) (later : Heard host lines said) :
      Heard host (line :: lines) said

variable {host status : String} {line : List Char} {lines : List (List Char)} {said : List String}

def statusOf? (host : String) (line : List Char) : Option String :=
  (statusLine? line).bind fun entry => if host = entry.1 then some entry.2 else none

theorem statusOf?_eq_some_iff : statusOf? host line = some status ↔ StatusLine line host status := by
  rw [← statusLine?_eq_some_iff]
  simp only [statusOf?, Option.bind_eq_some_iff, Option.ite_none_right_eq_some, Option.some.injEq]
  constructor
  · rintro ⟨⟨name, said⟩, read, rfl, rfl⟩
    exact read
  · intro read
    exact ⟨(host, status), read, rfl, rfl⟩

theorem statusOf?_eq_none_iff : statusOf? host line = none ↔ ∀ status, ¬ StatusLine line host status := by
  simp only [Option.eq_none_iff_forall_ne_some, ne_eq, statusOf?_eq_some_iff]

theorem told_eq (host : String) (lines : List (List Char)) :
    told host (lines.filterMap statusLine?) = lines.filterMap (statusOf? host) :=
  List.filterMap_filterMap

theorem heard_filterMap (host : String) (lines : List (List Char)) :
    Heard host lines (lines.filterMap (statusOf? host)) := by
  induction lines with
  | nil => exact .done
  | cons line later ih =>
    cases read : statusOf? host line with
    | none =>
      rw [List.filterMap_cons_none read]
      exact .silent (statusOf?_eq_none_iff.mp read) ih
    | some status =>
      rw [List.filterMap_cons_some read]
      exact .spoken (statusOf?_eq_some_iff.mp read) ih

theorem Heard.eq_filterMap (heard : Heard host lines said) : said = lines.filterMap (statusOf? host) := by
  induction heard with
  | done => rfl
  | spoken about _ ih => rw [List.filterMap_cons_some (statusOf?_eq_some_iff.mpr about), ih]
  | silent other _ ih => rw [List.filterMap_cons_none (statusOf?_eq_none_iff.mpr other), ih]

theorem heard_iff : Heard host lines said ↔ said = lines.filterMap (statusOf? host) := by
  constructor
  · exact Heard.eq_filterMap
  · rintro rfl
    exact heard_filterMap host lines

theorem verdict_eq_some (spoken : said ≠ []) :
    verdict said = some ((said.find? (· ≠ answered)).getD answered) := by
  unfold verdict
  cases failure : said.find? (· ≠ answered) with
  | some first => rfl
  | none =>
    have all : ∀ status ∈ said, status = answered := by simpa using failure
    obtain ⟨first, later, rfl⟩ := List.exists_cons_of_ne_nil spoken
    exact congrArg some (all first List.mem_cons_self)

variable {one two : String}

theorem mem_of_perm (perm : (Text.lines one.toList).Perm (Text.lines two.toList)) :
    Tells one.toList host status ↔ Tells two.toList host status := by
  unfold Tells
  simp only [perm.mem_iff]

theorem hosts_of_perm (perm : (Text.lines one.toList).Perm (Text.lines two.toList)) :
    (parse one).statuses.hosts = (parse two).statuses.hosts := by
  apply HostTable.hosts_eq_of_known
  intro host
  simp only [parse_silent_iff, mem_of_perm perm]

theorem unreachable_of_perm (perm : (Text.lines one.toList).Perm (Text.lines two.toList)) :
    (parse one).unreachable = (parse two).unreachable := by
  apply HostTable.eq_of_contains
  intro host
  rw [unreachable_contains, unreachable_contains, Bool.eq_iff_iff, parse_failed_iff, parse_failed_iff]
  simp only [mem_of_perm perm]

theorem failure_beats_success (output : String) :
    let report := parse output
    (∀ host, ∃ said, (∀ other, Heard host (Text.lines output.toList) other ↔ other = said) ∧
      (report.statuses.contains host = true ↔ said ≠ []) ∧
      (said ≠ [] → report.statuses.get? host = some ((said.find? (· ≠ "SUCCESS")).getD "SUCCESS")) ∧
      (report.unreachable.contains host = true ↔ ∃ status ∈ said, status ≠ "SUCCESS")) ∧
    ∀ other : String, (Text.lines output.toList).Perm (Text.lines other.toList) →
      report.statuses.hosts = (parse other).statuses.hosts ∧
        report.unreachable = (parse other).unreachable := by
  intro report
  constructor
  · intro host
    refine ⟨(Text.lines output.toList).filterMap (statusOf? host), fun _ => heard_iff, ?_⟩
    have held : report.statuses.get? host = verdict _ := parse_get? output
    rw [told_eq] at held
    generalize (Text.lines output.toList).filterMap (statusOf? host) = said at held
    refine ⟨?_, ?_, ?_⟩
    · rw [HostTable.contains, held, Option.isSome_iff_ne_none, ne_eq, verdict_eq_none_iff]
    · intro spoken
      rw [held]
      exact verdict_eq_some spoken
    · rw [unreachable_contains, held]
      exact verdict_failed_iff
  · intro other perm
    exact ⟨hosts_of_perm perm, unreachable_of_perm perm⟩

-- The second of two failures comes first in another order, and success first in neither.
theorem failures_in_two_orders :
    let one := "n1.a | SUCCESS => x\nn1.b | DOWN => x\nn2 | SUCCESS => x\nn1.c | LOST => x\n"
    let two := "n1.c | LOST => x\nn2 | SUCCESS => x\nn1.b | DOWN => x\nn1.a | SUCCESS => x\n"
    (Text.lines one.toList).Perm (Text.lines two.toList) ∧
      (parse one).statuses.get? "n1" = some "DOWN" ∧ (parse two).statuses.get? "n1" = some "LOST" ∧
      (parse two).statuses.hosts = ["n1", "n2"] ∧ (parse two).unreachable.hosts = ["n1"] := by
  intro one two
  have perm : (Text.lines one.toList).Perm (Text.lines two.toList) := by decide +kernel
  have listed : (parse one).statuses.hosts = ["n1", "n2"] := by decide +kernel
  have down : (parse one).unreachable.hosts = ["n1"] := by decide +kernel
  obtain ⟨sameHosts, sameDown⟩ := (failure_beats_success one).2 two perm
  exact ⟨perm, by decide +kernel, by decide +kernel, sameHosts.symm.trans listed,
    sameDown.symm ▸ down⟩

end TestbedWatchdog.ProbeReport
