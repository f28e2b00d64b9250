import TestbedWatchdog.Proofs.Config.Validation
import TestbedWatchdog.Proofs.Outage
import TestbedWatchdog.Proofs.Probe.Ping

namespace TestbedWatchdog

theorem Phase.next_eq_none_iff (tracked : phase ≠ none) :
    next limits phase sighting = none ↔ sighting = .clear := by
  cases sighting with
  | down => simp [next]
  | unknown => simp [next, tracked]
  | clear => simp [next]

theorem Phase.next_none (reached : sighting ≠ .down) : next limits none sighting = none := by
  cases sighting with
  | down => exact absurd rfl reached
  | unknown => rfl
  | clear => rfl

namespace Monitor

variable {settings : ProbeSettings} {hosts : List String} {host : String} {monitor : Monitor}

theorem phase_of_never_down {results : List (Except Error ProbeReport)}
    (never : ∀ found ∈ results, Sighting.ofResult host found ≠ .down) (new : monitor.phase host = none) :
    (results.foldl settled monitor).phase host = none := by
  induction results generalizing monitor with
  | nil => exact new
  | cons found later ih =>
    apply ih
    · intro other member
      exact never other (List.mem_cons_of_mem _ member)
    · rw [settled_phase, new]
      exact Phase.next_none (never found List.mem_cons_self)

theorem phase_of_unlisted (listed : hosts ≠ []) (outside : host ∉ hosts)
    {results : List (Except Error ProbeReport)}
    (pinged : ∀ found ∈ results, ∃ reply, found = Probe.judge settings hosts reply)
    (new : monitor.phase host = none) : (results.foldl settled monitor).phase host = none := by
  refine phase_of_never_down (fun found member => ?_) new
  obtain ⟨reply, rfl⟩ := pinged found member
  exact Probe.judge_unlisted listed outside

theorem pinged_results {tools : Tools ω} {switch : PowerSwitch ω} {world : ω} {rounds : List (Round ω)}
    (course : ∀ round ∈ rounds, round ∈ Monitor.rounds switch
      (List.replicate cycles (Probe.ping tools settings hosts)) monitor world) :
    ∀ found ∈ rounds.map (·.found), ∃ reply, found = Probe.judge settings hosts reply := by
  intro found member
  obtain ⟨round, present, rfl⟩ := List.mem_map.mp member
  obtain ⟨reply, _, judged⟩ := Round.pinged (course round present)
  exact ⟨reply, judged⟩

end Monitor

namespace Round

variable {settings : ProbeSettings} {hosts : List String} {host : String} {round : Round ω} {reply : Reply}

theorem forgets_iff (lawful : round.Lawful) (found : round.found = Probe.judge settings hosts reply)
    (distinct : hosts.Nodup) (listed : host ∈ hosts) (tracked : round.before.phase host ≠ none) :
    round.after.phase host = none ↔
      (∃ report, round.found = .ok report) ∧ (∃ status, reply.Tells host status) ∧
        ∀ status, reply.Tells host status → status = ProbeReport.answered := by
  rw [Monitor.after_phase lawful, Phase.next_eq_none_iff tracked, found,
    Probe.judge_clear_iff distinct listed]
  constructor
  · intro answered
    obtain ⟨⟨status, told⟩, all⟩ := answered
    exact ⟨Probe.judge_of_tells told, ⟨status, told⟩, all⟩
  · intro given
    exact given.2

theorem keeps_silent (lawful : round.Lawful) (found : round.found = Probe.judge settings hosts reply)
    (distinct : hosts.Nodup) (listed : hosts ≠ [])
    (untracked : host ∉ hosts → round.before.phase host = none)
    (silent : ∀ status, ¬ reply.Tells host status) :
    round.after.phase host = round.before.phase host := by
  rw [Monitor.after_phase lawful, found]
  by_cases inside : host ∈ hosts
  · rw [Probe.judge_unknown distinct inside silent]
    rfl
  · rw [untracked inside]
    exact Phase.next_none (Probe.judge_unlisted listed inside)

end Round

theorem forgotten_iff_all_answered (tools : Tools ω) (config : Config)
    (valid : config.validate = .ok ()) (listed : config.watchdog.hosts ≠ []) (limits : Limits)
    (session : Option Session) (switch : PowerSwitch ω) (cycles : Nat) (world : ω) :
    let hosts := config.watchdog.hosts
    let probes := List.replicate cycles (Probe.ping tools config.probe hosts)
    let new := Monitor.fresh limits session
    let rounds := Monitor.rounds switch probes new world
    (∀ host, (Monitor.ending switch probes new world).phase host ≠ none → host ∈ hosts) ∧
    rounds.length = cycles ∧
    ∀ i : Fin rounds.length, let round := rounds.get i; ∃ reply, round.probed.replies = [reply] ∧
      (∀ report, round.found = .ok report →
        (report.statuses.hosts ++ report.missing.hosts).Perm hosts) ∧
      (∀ host, round.before.phase host ≠ none →
        (round.after.phase host = none ↔
          (∃ report, round.found = .ok report) ∧ (∃ status, reply.Tells host status) ∧
            ∀ status, reply.Tells host status → status = "SUCCESS")) ∧
      (∀ host, (∀ status, ¬ reply.Tells host status) →
        round.after.phase host = round.before.phase host) ∧
      ∀ error, round.found = .error error → round.after = round.before := by
  intro hosts probes new rounds
  have distinct : hosts.Nodup := Config.hosts_nodup_of_validate valid
  refine ⟨?_, Monitor.rounds_length.trans List.length_replicate, ?_⟩
  · intro host tracked
    by_contra outside
    apply tracked
    rw [Monitor.ending_eq]
    exact Monitor.phase_of_unlisted listed outside (Monitor.pinged_results fun _ member => member) rfl
  · intro i round
    have present : rounds[i.val]? = some round := List.getElem?_eq_getElem i.isLt
    obtain ⟨lawful, before⟩ := Monitor.rounds_getElem? present
    obtain ⟨reply, replies, found⟩ := Round.pinged (List.mem_of_getElem? present)
    have off (host : String) (outside : host ∉ hosts) : round.before.phase host = none := by
      rw [before]
      exact Monitor.phase_of_unlisted listed outside
        (Monitor.pinged_results fun _ member => List.mem_of_mem_take member) rfl
    refine ⟨reply, replies, ?_, ?_, ?_, ?_⟩
    · intro report judged
      exact Probe.judge_partition listed distinct (found.symm.trans judged)
    · intro host tracked
      have inside : host ∈ hosts := by
        by_contra outside
        exact tracked (off host outside)
      exact Round.forgets_iff lawful found distinct inside tracked
    · intro host silent
      exact Round.keeps_silent lawful found distinct listed (off host) silent
    · intro error failed
      rw [lawful.after, failed]
      rfl

def pair : Config := { watchdog := { hosts := ["n1", "n2"] } }

-- A host that fails, is silent for a cycle, and then answers by both of its names.
def recovery : List (Round (List Reply)) :=
  Monitor.rounds PowerSwitch.dead
    (List.replicate 3 (Probe.ping Tools.scripted pair.probe pair.watchdog.hosts))
    (Monitor.fresh {} none)
    [.printed "n1.lab | DOWN => x\n", .printed "n2.lab | SUCCESS => x\n",
      .printed "n1.lab | SUCCESS => x\nn1 | SUCCESS => x\n"]

theorem forgotten_on_recovery :
    pair.validate = .ok () ∧ pair.watchdog.hosts ≠ [] ∧
      recovery.map (·.after.phase "n1") = [some (.failing 1), some (.failing 1), none] ∧
      ∃ round ∈ recovery, ∃ reply, round.probed.replies = [reply] ∧
        (∃ status, reply.Tells "n1" status) ∧
        ∀ status, reply.Tells "n1" status → status = "SUCCESS" := by
  have valid : pair.validate = .ok () := by decide +kernel
  have listed : pair.watchdog.hosts ≠ [] := by decide
  have phases : recovery.map (·.after.phase "n1") = [some (.failing 1), some (.failing 1), none] := by
    decide +kernel
  refine ⟨valid, listed, phases, ?_⟩
  obtain ⟨_, length, cycle⟩ := forgotten_iff_all_answered Tools.scripted pair valid listed {} none
    PowerSwitch.dead 3 _
  have third : 2 < recovery.length := by
    rw [recovery, length]
    decide
  obtain ⟨reply, replies, _, lost, _⟩ := cycle ⟨2, third⟩
  have tracked : ∀ third : 2 < recovery.length, recovery[2].before.phase "n1" ≠ none := by
    decide +kernel
  have gone : ∀ third : 2 < recovery.length, recovery[2].after.phase "n1" = none := by
    decide +kernel
  obtain ⟨_, answered⟩ := (lost "n1" (tracked third)).mp (gone third)
  exact ⟨recovery[2], List.getElem_mem third, reply, replies, answered⟩

end TestbedWatchdog
