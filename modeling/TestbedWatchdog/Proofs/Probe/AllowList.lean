import TestbedWatchdog.Proofs.Probe.Report

namespace TestbedWatchdog.ProbeReport

variable {report : ProbeReport} {hosts other : List String} {host : String}

-- No host that has reported stands in the list more than once.
def ListedOnce (report : ProbeReport) (hosts : List String) : Prop :=
  ∀ host, report.statuses.contains host = true → hosts.count host ≤ 1

theorem listedOnce_of_nodup (distinct : hosts.Nodup) : report.ListedOnce hosts :=
  fun host _ => List.nodup_iff_count_le_one.mp distinct host

theorem not_reported_iff : report.statuses.get? host = none ↔ ¬ report.statuses.contains host = true :=
  Option.not_isSome_iff_eq_none.symm

theorem mem_of_repeated (repeated : 1 < hosts.count host) : host ∈ hosts :=
  List.count_pos_iff.mp (Nat.zero_lt_of_lt repeated)

theorem restrictTo_contains (listed : hosts ≠ []) :
    (report.restrictTo hosts).statuses.contains host = true ↔
      host ∈ hosts ∧ report.statuses.contains host = true := by
  unfold HostTable.contains
  rw [restrictTo_statuses]
  by_cases member : host ∈ hosts <;> simp [listed, member]

theorem restrictTo_covers (listed : hosts ≠ []) : host ∈ hosts ↔
    (report.restrictTo hosts).statuses.contains host = true ∨
      (report.restrictTo hosts).missing.contains host = true := by
  rw [restrictTo_contains listed, restrictTo_missing_of_any listed, not_reported_iff]
  tauto

theorem restrictTo_overlap (listed : hosts ≠ []) :
    ((report.restrictTo hosts).statuses.contains host = true ∧
      (report.restrictTo hosts).missing.contains host = true) ↔
      report.statuses.contains host = true ∧ 1 < hosts.count host := by
  rw [restrictTo_contains listed, restrictTo_missing_of_any listed, not_reported_iff]
  have member := @mem_of_repeated hosts host
  tauto

theorem restrictTo_disjoint_iff (listed : hosts ≠ []) :
    (∀ host, ¬ ((report.restrictTo hosts).statuses.contains host = true ∧
      (report.restrictTo hosts).missing.contains host = true)) ↔ report.ListedOnce hosts := by
  simp only [restrictTo_overlap listed, not_and, Nat.not_lt, ListedOnce]

theorem restrictTo_missing_silent_iff (listed : hosts ≠ []) :
    (∀ host, (report.restrictTo hosts).missing.contains host = true ↔
      host ∈ hosts ∧ report.statuses.get? host = none) ↔ report.ListedOnce hosts := by
  rw [← restrictTo_disjoint_iff listed]
  refine forall_congr' fun host => ?_
  rw [restrictTo_overlap listed, restrictTo_missing_of_any listed, not_reported_iff]
  have member := @mem_of_repeated hosts host
  tauto

theorem restrictTo_eq_iff (listed : hosts ≠ []) (alsoListed : other ≠ []) :
    report.restrictTo other = report.restrictTo hosts ↔
      (∀ host, host ∈ other ↔ host ∈ hosts) ∧
        ∀ host, report.statuses.contains host = true → (1 < other.count host ↔ 1 < hosts.count host) := by
  constructor
  · intro same
    constructor
    · intro host
      rw [restrictTo_covers alsoListed, same, ← restrictTo_covers listed]
    · intro host reported
      have overlap := @restrictTo_overlap report other host alsoListed
      rw [same, restrictTo_overlap listed] at overlap
      simpa [reported] using overlap.symm
  · rintro ⟨members, repeats⟩
    have statuses : (report.restrictTo other).statuses = (report.restrictTo hosts).statuses := by
      apply HostTable.eq_of_get?
      intro host
      rw [restrictTo_statuses, restrictTo_statuses]
      simp [listed, alsoListed, members]
    have missing : (report.restrictTo other).missing = (report.restrictTo hosts).missing := by
      apply HostTable.eq_of_contains
      intro host
      rw [Bool.eq_iff_iff, restrictTo_missing_of_any alsoListed, restrictTo_missing_of_any listed,
        members, not_reported_iff]
      have often := repeats host
      tauto
    cases one : report.restrictTo other
    cases two : report.restrictTo hosts
    simp_all

theorem restricted_well_iff_listed_once (report : ProbeReport) (hosts : List String)
    (listed : hosts ≠ []) :
    let kept := report.restrictTo hosts
    (∀ host, kept.statuses.get? host = if host ∈ hosts then report.statuses.get? host else none) ∧
    (∀ host, host ∈ hosts ↔ kept.statuses.contains host = true ∨ kept.missing.contains host = true) ∧
    (∀ host, kept.missing.contains host = true ↔
      host ∈ hosts ∧ (report.statuses.get? host = none ∨ 1 < hosts.count host)) ∧
    ((∀ host, kept.missing.contains host = true ↔ host ∈ hosts ∧ report.statuses.get? host = none) ↔
      report.ListedOnce hosts) ∧
    ((∀ host, ¬ (kept.statuses.contains host = true ∧ kept.missing.contains host = true)) ↔
      report.ListedOnce hosts) ∧
    (hosts.Nodup → report.ListedOnce hosts) ∧
    ∀ other, other ≠ [] → (report.restrictTo other = kept ↔ (∀ host, host ∈ other ↔ host ∈ hosts) ∧
      ∀ host, report.statuses.contains host = true → (1 < other.count host ↔ 1 < hosts.count host)) := by
  intro kept
  refine ⟨fun host => ?_, fun host => restrictTo_covers listed,
    fun host => restrictTo_missing_of_any listed, restrictTo_missing_silent_iff listed,
    restrictTo_disjoint_iff listed, listedOnce_of_nodup, fun other some => restrictTo_eq_iff listed some⟩
  rw [restrictTo_statuses]
  simp [listed]

theorem silent_host_repeated :
    let report := parse "n1 | SUCCESS => x\nn3 | DOWN => x\n"
    let hosts := ["n2", "n1", "n2"]
    hosts ≠ [] ∧ report.ListedOnce hosts ∧ (report.restrictTo hosts).statuses.entries = [("n1", "SUCCESS")] ∧
      (∀ host, (report.restrictTo hosts).missing.contains host = true ↔
        host ∈ hosts ∧ report.statuses.get? host = none) ∧
      report.restrictTo ["n1", "n2"] = report.restrictTo hosts := by
  intro report hosts
  have listed : hosts ≠ [] := List.cons_ne_nil _ _
  obtain ⟨_, _, _, silent, _, _, same⟩ := restricted_well_iff_listed_once report hosts listed
  have reported : report.statuses.hosts = ["n1", "n3"] := by decide +kernel
  have once : report.ListedOnce hosts := by
    have counts : ∀ host ∈ ["n1", "n3"], hosts.count host ≤ 1 := by decide
    intro host known
    rw [HostTable.contains_iff_mem_hosts, reported] at known
    exact counts host known
  refine ⟨listed, once, by decide +kernel, silent.mpr once, (same ["n1", "n2"] (List.cons_ne_nil _ _)).mpr ?_⟩
  constructor
  · intro host
    simp only [hosts, List.mem_cons, List.not_mem_nil, or_false]
    tauto
  · have counts : ∀ host ∈ ["n1", "n3"], (1 < ["n1", "n2"].count host ↔ 1 < hosts.count host) := by decide
    intro host known
    rw [HostTable.contains_iff_mem_hosts, reported] at known
    exact counts host known

-- A host that has answered, and whose name is listed twice, is missing all the same.
theorem answered_host_repeated :
    let report := parse "n1 | SUCCESS => x\n"
    let kept := report.restrictTo ["n1", "n1"]
    kept.statuses.entries = [("n1", "SUCCESS")] ∧ kept.missing.hosts = ["n1"] ∧
      ¬ (∀ host, kept.missing.contains host = true ↔
        host ∈ ["n1", "n1"] ∧ report.statuses.get? host = none) ∧
      (∀ host, host ∈ ["n1"] ↔ host ∈ ["n1", "n1"]) ∧ report.restrictTo ["n1"] ≠ kept := by
  intro report kept
  have missing : kept.missing.contains "n1" = true := by decide +kernel
  have reported : report.statuses.get? "n1" = some "SUCCESS" := by decide +kernel
  refine ⟨by decide +kernel, by decide +kernel, fun silent => ?_, by simp, by decide +kernel⟩
  have none := ((silent "n1").mp missing).2
  rw [reported] at none
  cases none

end TestbedWatchdog.ProbeReport
