import Mathlib.Data.List.Count
import TestbedWatchdog.Proofs.Course

namespace TestbedWatchdog

-- What the result of a probe says about a host. A probe that failed has no word of any.
def Sighting.ofResult (host : String) : Except Error ProbeReport → Sighting
  | .error _ => .unknown
  | .ok report =>
    if (report.statuses.get? host).any (· ≠ ProbeReport.answered) then .down
    else if report.missing.contains host then .unknown
    else .clear

theorem ProbeReport.unreachable_contains {report : ProbeReport} :
    report.unreachable.contains host = (report.statuses.get? host).any (· ≠ answered) := by
  unfold unreachable HostTable.names HostTable.contains
  rw [HostTable.get?_map, HostTable.get?_filter]
  cases report.statuses.get? host with
  | none => rfl
  | some status => by_cases same : status = answered <;> simp [same]

theorem Sighting.ofResult_ok {report : ProbeReport} :
    ofResult host (.ok report) = Ledger.sighting report.unreachable report.missing host := by
  simp only [ofResult, Ledger.sighting, ProbeReport.unreachable_contains]

theorem Sighting.ofResult_down_iff {report : ProbeReport} : ofResult host (.ok report) = .down ↔
    (report.statuses.get? host).any (· ≠ ProbeReport.answered) = true := by
  rw [ofResult_ok, Ledger.sighting_down_iff, ProbeReport.unreachable_contains]

theorem Sighting.ofResult_clear_iff {report : ProbeReport} : ofResult host (.ok report) = .clear ↔
    ¬ (report.statuses.get? host).any (· ≠ ProbeReport.answered) = true ∧
      ¬ report.missing.contains host = true := by
  unfold ofResult
  split
  · simp_all
  · split <;> simp_all

namespace Monitor

variable {monitor : Monitor} {found : Except Error ProbeReport} {round : Round ω}

@[simp] theorem settled_limits : (monitor.settled found).limits = monitor.limits := by
  cases found <;> rfl

def phase (monitor : Monitor) (host : String) : Option Phase := monitor.ledger.phases.get? host

theorem settled_phase : (monitor.settled found).phase host =
    Phase.next monitor.limits (monitor.phase host) (.ofResult host found) := by
  cases found with
  | error error => rfl
  | ok report =>
    rw [Sighting.ofResult_ok]
    exact Ledger.observe_get? monitor.ledger

theorem after_phase (lawful : round.Lawful) : round.after.phase host =
    Phase.next round.before.limits (round.before.phase host) (.ofResult host round.found) := by
  rw [lawful.after, settled_phase]

theorem mem_escalations : ⟨host, kind⟩ ∈ monitor.escalations found ↔
    Phase.escalation? monitor.limits (monitor.phase host) (.ofResult host found) = some kind := by
  cases found with
  | error error => simp [escalations, Sighting.ofResult, Phase.escalation?]
  | ok report =>
    rw [Sighting.ofResult_ok]
    exact Ledger.mem_observe monitor.ledger

theorem escalations_nodup : ((monitor.escalations found).map (·.host)).Nodup := by
  cases found with
  | error error => exact .nil
  | ok report => exact Ledger.observe_nodup monitor.ledger

theorem commanded_iff (lawful : round.Lawful) :
    host ∈ round.commanded ↔ ∃ kind, ⟨host, kind⟩ ∈ round.report.escalations := by
  rw [lawful.commanded, lawful.escalations, List.mem_map]
  constructor
  · intro asked
    obtain ⟨⟨host, kind⟩, due, rfl⟩ := asked
    exact ⟨kind, due⟩
  · intro escalated
    obtain ⟨kind, due⟩ := escalated
    exact ⟨⟨host, kind⟩, due, rfl⟩

theorem mem_commanded (lawful : round.Lawful) : host ∈ round.commanded ↔
    (Phase.escalation? round.before.limits (round.before.phase host)
      (.ofResult host round.found)).isSome := by
  simp only [commanded_iff lawful, lawful.escalations, mem_escalations, Option.isSome_iff_exists]

theorem down_of_commanded (lawful : round.Lawful) (commanded : host ∈ round.commanded) :
    Sighting.ofResult host round.found = .down := by
  have due := (mem_commanded lawful).mp commanded
  cases seen : Sighting.ofResult host round.found with
  | down => rfl
  | unknown => simp [seen, Phase.escalation?] at due
  | clear => simp [seen, Phase.escalation?] at due

-- The switch is asked for a host once in a cycle or not at all.
theorem commanded_count (lawful : round.Lawful) : round.commanded.count host =
    if (Phase.escalation? round.before.limits (round.before.phase host)
      (.ofResult host round.found)).isSome then 1 else 0 := by
  have distinct : round.commanded.Nodup := lawful.commanded ▸ escalations_nodup
  rw [distinct.count]
  simp only [mem_commanded lawful]

theorem foldl_settled_limits {results : List (Except Error ProbeReport)} :
    (results.foldl settled monitor).limits = monitor.limits := by
  induction results generalizing monitor with
  | nil => rfl
  | cons found later ih => rw [List.foldl_cons, ih, settled_limits]

end Monitor

end TestbedWatchdog
