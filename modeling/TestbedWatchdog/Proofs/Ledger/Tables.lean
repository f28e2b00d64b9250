import TestbedWatchdog.Ledger
import TestbedWatchdog.Proofs.Lookup

namespace TestbedWatchdog

namespace Ledger

variable {ledger : Ledger} {host : String}

theorem tabled_get? {pick : String → Phase → Option UInt32} {kind : UInt32 → Phase}
    (picks : ∀ phase n, pick host phase = some n ↔ phase = kind n) (n : UInt32) :
    (ledger.phases.filterMap pick).get? host = some n ↔ ledger.phases.get? host = some (kind n) := by
  rw [HostTable.get?_filterMap]
  cases ledger.phases.get? host with
  | none => simp
  | some phase => simpa using picks phase n

theorem failing_get? (n : UInt32) :
    ledger.failing.get? host = some n ↔ ledger.phases.get? host = some (.failing n) :=
  tabled_get? (fun phase _ => by cases phase <;> simp) n

theorem rebooting_get? (n : UInt32) :
    ledger.rebooting.get? host = some n ↔ ledger.phases.get? host = some (.rebooting n) :=
  tabled_get? (fun phase _ => by cases phase <;> simp) n

theorem mem_failing :
    host ∈ ledger.failing.hosts ↔ ∃ n, ledger.phases.get? host = some (.failing n) := by
  simp only [HostTable.mem_hosts_iff, failing_get?]

theorem mem_rebooting :
    host ∈ ledger.rebooting.hosts ↔ ∃ n, ledger.phases.get? host = some (.rebooting n) := by
  simp only [HostTable.mem_hosts_iff, rebooting_get?]

-- A host has one phase, and a phase is of one kind.
theorem tables_disjoint (ledger : Ledger) : ledger.failing.hosts.Disjoint ledger.rebooting.hosts := by
  intro host counts waits
  obtain ⟨n, counts⟩ := mem_failing.mp counts
  obtain ⟨m, waits⟩ := mem_rebooting.mp waits
  cases counts.symm.trans waits

theorem tables_nodup (ledger : Ledger) : (ledger.failing.hosts ++ ledger.rebooting.hosts).Nodup :=
  List.nodup_append'.mpr
    ⟨ledger.failing.hosts_nodup, ledger.rebooting.hosts_nodup, ledger.tables_disjoint⟩

theorem mem_tables : host ∈ ledger.failing.hosts ++ ledger.rebooting.hosts ↔
    host ∈ ledger.phases.hosts := by
  rw [List.mem_append, mem_failing, mem_rebooting, HostTable.mem_hosts_iff]
  match ledger.phases.get? host with
  | none => simp
  | some (.failing n) => simp
  | some (.rebooting n) => simp

theorem tables_perm (ledger : Ledger) :
    (ledger.failing.hosts ++ ledger.rebooting.hosts).Perm ledger.phases.hosts :=
  (List.perm_ext_iff_of_nodup ledger.tables_nodup ledger.phases.hosts_nodup).mpr fun _ => mem_tables

theorem size_eq_add (ledger : Ledger) : ledger.size = ledger.failing.size + ledger.rebooting.size :=
  calc ledger.size = ledger.phases.hosts.length := HostTable.hosts_length.symm
    _ = (ledger.failing.hosts ++ ledger.rebooting.hosts).length := ledger.tables_perm.length_eq.symm
    _ = ledger.failing.size + ledger.rebooting.size := by
      simp only [List.length_append, HostTable.hosts_length]

theorem isEmpty_iff (ledger : Ledger) :
    ledger.isEmpty = true ↔ ledger.failing.isEmpty = true ∧ ledger.rebooting.isEmpty = true := by
  have sizes := ledger.size_eq_add
  unfold isEmpty
  unfold size at sizes
  simp only [HostTable.isEmpty_iff_size]
  omega

end Ledger

end TestbedWatchdog
