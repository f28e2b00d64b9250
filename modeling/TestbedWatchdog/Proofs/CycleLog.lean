import TestbedWatchdog.Proofs.Ledger.HostStep
import TestbedWatchdog.Proofs.Ledger.Tables
import TestbedWatchdog.Proofs.Outage
import TestbedWatchdog.Proofs.Text.TableReading
import TestbedWatchdog.Rehearsal.Drill

namespace TestbedWatchdog

def LogEvent.shown (event : LogEvent) : Level × String × List (String × FieldValue) :=
  (event.level, event.message, event.fields)

def Round.fails (host : String) (round : Round ω) : Bool := Sighting.ofResult host round.found = .down

structure SinceCommand (host : String) (past between : List (Round ω)) : Prop where
  command : ∃ earlier last, past = earlier ++ last :: between ∧ host ∈ last.commanded
  quiet : ∀ round ∈ between, host ∉ round.commanded

-- An escalation as a cycle has to announce it. The numbers are counted afresh from the results of the probe.
inductive Announces (session : Option Session) (past : List (Round ω)) (round : Round ω) :
    Escalation → LogEvent → Prop
  | initial (shown : event.shown = (.warn, "restarting host",
      [("host", .text host), ("node", .text (session.elim host (·.qualify host))),
        ("failures", .number (outage host ((past ++ [round]).map (·.found))))])) :
      Announces session past round ⟨host, .initial⟩ event
  | again (since : SinceCommand host past between)
      (checks : waited.toNat = (between ++ [round]).countP (·.fails host))
      (shown : event.shown = (.warn, "host hasn't come back after reboot, rebooting again",
        [("host", .text host), ("node", .text (session.elim host (·.qualify host))),
          ("checks", .number waited.toNat)])) :
      Announces session past round ⟨host, .again waited⟩ event

-- Escalations handled one after another: each is announced and goes to the switch, whose own trace comes in
-- between, and a command that has failed is complained of at once.
inductive Handled (announces : Escalation → LogEvent → Prop) (switch : PowerSwitch ω) :
    ω → List Escalation → List Effect → ω → Prop
  | none : Handled announces switch world [] [] world
  | accepted (announced : announces escalation event)
      (asked : switch escalation.host world = ⟨.ok (), between, trace⟩)
      (rest : Handled announces switch between later effects last) :
      Handled announces switch world (escalation :: later) (.log event :: (trace ++ effects)) last
  | refused {failure : LogEvent} (announced : announces escalation event)
      (asked : switch escalation.host world = ⟨.error error, between, trace⟩)
      (complaint : failure.shown = (.error, "error rebooting node",
        [("host", .text escalation.host), ("error", .text error.message)]))
      (rest : Handled announces switch between later effects last) :
      Handled announces switch world (escalation :: later)
        (.log event :: (trace ++ .log failure :: effects)) last

-- A table is told in a single warning, and not at all if it is empty. The text of the warning reads back to
-- every host of the table with its count, each once and in order.
inductive Tells (message : String) (table : HostTable UInt32) : List LogEvent → Prop
  | nothing (empty : ∀ host, table.get? host = none) : Tells message table []
  | warning {told : List (String × Nat)} (known : ∃ host count, table.get? host = some count)
      (shown : event.shown = (.warn, message, [("hosts", .text text)])) (read : Told.read? text = some told)
      (each : ∀ host n, (host, n) ∈ told ↔ ∃ count, table.get? host = some count ∧ n = count.toNat)
      (ascending : (told.map (·.1)).Pairwise (· < ·)) :
      Tells message table [event]

-- The state of all hosts at the end of a cycle: each tracked host stands in one of two tables, once.
inductive Summarizes (monitor : Monitor) : List LogEvent → Prop
  | fine (forgotten : ∀ host, monitor.phase host = none)
      (shown : event.shown = (.info, "all hosts are fine", [])) : Summarizes monitor [event]
  | unwell (tracked : ∃ host, monitor.phase host ≠ none)
      (counting : ∀ host n, failing.get? host = some n ↔ monitor.phase host = some (.failing n))
      (waiting : ∀ host n, rebooting.get? host = some n ↔ monitor.phase host = some (.rebooting n))
      (once : (failing.hosts ++ rebooting.hosts).Nodup)
      (all : ∀ host, host ∈ failing.hosts ++ rebooting.hosts ↔ monitor.phase host ≠ none)
      (bad : Tells "bad hosts" failing first) (gone : Tells "nodes rebooting" rebooting second) :
      Summarizes monitor (first ++ second)

inductive CycleLog (session : Option Session) (switch : PowerSwitch ω) (past : List (Round ω))
    (round : Round ω) : List Effect → Prop
  | skipped {tracked : List String} (failed : round.found = .error error)
      (kept : round.after = round.before) (once : tracked.Nodup)
      (all : ∀ host, host ∈ tracked ↔ round.before.phase host ≠ none)
      (shown : event.shown = (.warn, "reachability check failed, leaving host state unchanged",
        [("error", .text error.message), ("tracked", .number tracked.length)])) :
      CycleLog session switch past round [.log event]
  | observed (found : round.found = .ok report)
      (handled : Handled (Announces session past round) switch round.probed.world
        round.report.escalations effects round.polled.world)
      (summary : Summarizes round.after events) :
      CycleLog session switch past round (effects ++ events.map .log)

namespace SinceCommand

variable {host : String} {past between : List (Round ω)} {round : Round ω}

theorem of_commanded (commanded : host ∈ round.commanded) : SinceCommand host (past ++ [round]) [] :=
  ⟨⟨past, round, rfl, commanded⟩, fun _ none => absurd none List.not_mem_nil⟩

theorem later (since : SinceCommand host past between) (quiet : host ∉ round.commanded) :
    SinceCommand host (past ++ [round]) (between ++ [round]) := by
  obtain ⟨⟨earlier, last, rfl, commanded⟩, before⟩ := since
  refine ⟨⟨earlier, last, by simp, commanded⟩, fun other present => ?_⟩
  rcases List.mem_append.mp present with old | new
  · exact before other old
  · exact List.mem_singleton.mp new ▸ quiet

end SinceCommand

-- A host that waits on a reboot has been commanded, and has failed as many checks since as it has waited.
def Waits (limits : Limits) (host : String) (past : List (Round ω)) : Option Phase → Prop
  | some (.rebooting n) => n ≤ limits.rebootLimit ∧
      ∃ between, SinceCommand host past between ∧
        n.toNat = min (between.countP (·.fails host)) 0xFFFFFFFF
  | _ => True

section Waiting

variable {limits : Limits} {host : String} {past : List (Round ω)} {round : Round ω}
  {before : Option Phase}

theorem waits_step (held : Waits limits host past before)
    (commanded : host ∈ round.commanded ↔
      (Phase.escalation? limits before (.ofResult host round.found)).isSome) :
    Waits limits host (past ++ [round]) (Phase.next limits before (.ofResult host round.found)) := by
  have step := HostStep.sound limits (.ofResult host round.found) before
  generalize seen : Sighting.ofResult host round.found = sighting at step commanded ⊢
  generalize Phase.next limits before sighting = after at step ⊢
  generalize Phase.escalation? limits before sighting = kind? at step commanded
  cases step with
  | counted => trivial
  | clear => trivial
  | rebooted => exact ⟨UInt32.zero_le, [], .of_commanded (commanded.mpr rfl), rfl⟩
  | rebootedAgain => exact ⟨UInt32.zero_le, [], .of_commanded (commanded.mpr rfl), rfl⟩
  | waited more patient =>
    obtain ⟨_, between, since, count⟩ := held
    refine ⟨patient, _, since.later (by simp [commanded]), ?_⟩
    have last : [round].countP (·.fails host) = 1 := by simp [Round.fails, seen]
    rw [more, count, List.countP_append, last]
    omega
  | unknown =>
    match before, held with
    | some (.rebooting n), ⟨patient, between, since, count⟩ =>
      refine ⟨patient, _, since.later (by simp [commanded]), ?_⟩
      simpa [Round.fails, seen] using count
    | some (.failing n), _ => trivial
    | none, _ => trivial

-- The wait has been below the limit, so the counter has not stood still.
theorem checks_of_waits (held : Waits limits host past before) (failed : round.fails host)
    (due : Phase.escalation? limits before .down = some (.again checks)) :
    ∃ between, SinceCommand host past between ∧
      checks.toNat = (between ++ [round]).countP (·.fails host) := by
  have step := HostStep.sound limits .down before
  rw [due] at step
  generalize Phase.next limits before .down = after at step
  cases step with
  | rebootedAgain more passed =>
    obtain ⟨patient, between, since, count⟩ := held
    refine ⟨between, since, ?_⟩
    have bound := checks.toNat_lt
    rw [UInt32.lt_iff_toNat_lt] at passed
    rw [UInt32.le_iff_toNat_le] at patient
    rw [IsBumped] at more
    have last : [round].countP (·.fails host) = 1 := by simp [failed]
    rw [List.countP_append, last]
    omega

end Waiting

theorem tells_table {table : HostTable UInt32} {event : LogEvent}
    (shown : event.shown = (.warn, message, [("hosts", .text (LogEvent.tableText table))])) :
    Tells message table (if table.isEmpty then [] else [event]) := by
  split
  · rename_i empty
    exact .nothing (HostTable.isEmpty_iff.mp empty)
  · rename_i known
    refine .warning ?_ shown (Told.read?_tableText table) ?_ ?_
    · simpa [HostTable.isEmpty_iff, Option.ne_none_iff_exists'] using known
    · intro host n
      rw [List.mem_map]
      constructor
      · intro told
        obtain ⟨⟨name, count⟩, present, rfl, rfl⟩ := told
        exact ⟨count, HostTable.get?_eq_some_iff.mpr present, rfl⟩
      · intro counted
        obtain ⟨count, found, rfl⟩ := counted
        exact ⟨(host, count), HostTable.get?_eq_some_iff.mp found, rfl⟩
    · rw [List.map_map]
      exact table.hosts_ascending

namespace Monitor

variable {monitor : Monitor} {switch : PowerSwitch ω} {probes : List (Probe ω)} {world : ω}
  {round : Round ω} {host : String}

theorem foldl_settled_session {results : List (Except Error ProbeReport)} :
    (results.foldl settled monitor).session = monitor.session := by
  induction results generalizing monitor with
  | nil => rfl
  | cons found later ih =>
    rw [List.foldl_cons, ih]
    cases found <;> rfl

theorem waits_rounds (new : monitor.phase host = none) (i : Nat) :
    let past := (rounds switch probes monitor world).take i
    Waits monitor.limits host past (((past.map (·.found)).foldl settled monitor).phase host) := by
  intro past
  unfold past
  induction i with
  | zero => simp [new, Waits]
  | succ i ih =>
    rw [List.take_add_one]
    cases present : (rounds switch probes monitor world)[i]? with
    | none => simpa using ih
    | some round =>
      obtain ⟨lawful, before⟩ := rounds_getElem? present
      rw [Option.toList_some, List.map_append, List.foldl_append, List.map_singleton, List.foldl_cons,
        List.foldl_nil, settled_phase, foldl_settled_limits]
      apply waits_step ih
      rw [mem_commanded lawful, before, foldl_settled_limits]

theorem announces (positive : 1 ≤ monitor.limits.failureLimit) (new : ∀ host, monitor.phase host = none)
    (present : (rounds switch probes monitor world)[i]? = some round)
    (due : escalation ∈ round.report.escalations) :
    Announces monitor.session ((rounds switch probes monitor world).take i) round escalation
      (round.before.announcement escalation) := by
  obtain ⟨host, kind⟩ := escalation
  obtain ⟨lawful, before⟩ := rounds_getElem? present
  have sameLimits : round.before.limits = monitor.limits := before ▸ foldl_settled_limits
  have sameSession : round.before.session = monitor.session := before ▸ foldl_settled_session
  have node : round.before.nodeName host = monitor.session.elim host (·.qualify host) := by
    rw [nodeName, sameSession]
    cases monitor.session <;> rfl
  obtain ⟨down, now⟩ := (round_escalation (new host) present kind).mp due
  cases kind with
  | initial =>
    have limit : monitor.limits.first = monitor.limits.failureLimit.toNat :=
      max_eq_left (UInt32.le_iff_toNat_le.mp positive)
    apply Announces.initial
    rw [List.take_add_one, present, Option.toList_some, limit] at now
    rw [now, ← node, ← sameLimits]
    rfl
  | again checks =>
    rw [lawful.escalations, mem_escalations, sameLimits, down] at due
    have waits := @waits_rounds _ monitor switch probes world host (new host) i
    simp only [← before] at waits
    obtain ⟨between, since, count⟩ := checks_of_waits waits (decide_eq_true down) due
    apply Announces.again since count
    rw [← node]
    rfl

theorem escalateAll_handled {announces : Escalation → LogEvent → Prop} {escalations : List Escalation}
    (announced : ∀ escalation ∈ escalations, announces escalation (monitor.announcement escalation)) :
    let done := monitor.escalateAll switch escalations world
    Handled announces switch world escalations done.trace done.world := by
  induction escalations generalizing world with
  | nil => exact .none
  | cons escalation rest ih =>
    have first := announced escalation List.mem_cons_self
    have others := fun other member => announced other (List.mem_cons_of_mem _ member)
    simp only [escalateAll, escalate, bind, Act.andThen, pure, Act.done, Act.log, Act.leave]
    cases asked : switch escalation.host world with
    | mk value between trace =>
      cases value with
      | ok accord => simpa [Act.done] using Handled.accepted first asked (ih others)
      | error error =>
        simpa [Act.andThen, Act.done, Act.leave] using Handled.refused first asked rfl (ih others)

theorem summary_summarizes : Summarizes monitor (summary monitor.ledger) := by
  unfold summary
  split
  · rename_i empty
    exact .fine (HostTable.isEmpty_iff.mp empty) rfl
  · rename_i tracked
    refine .unwell ?_ (fun _ => Ledger.failing_get?) (fun _ => Ledger.rebooting_get?)
      monitor.ledger.tables_nodup ?_ (tells_table rfl) (tells_table rfl)
    · simpa [Ledger.isEmpty, HostTable.isEmpty_iff, phase] using tracked
    · intro host
      rw [Ledger.mem_tables, HostTable.mem_hosts_iff, ← Option.ne_none_iff_exists']
      rfl

theorem pollCycle_failed {probe : Probe ω} (failed : (probe world).value = .error error) :
    (monitor.pollCycle probe switch world).trace =
      (probe world).trace ++ [.log (.probeFailed error monitor.ledger.size)] := by
  simp [pollCycle, settle, bind, Act.andThen, failed, pure, Act.done, Act.log, Act.leave]

theorem pollCycle_observed {probe : Probe ω} (found : (probe world).value = .ok report) :
    let done := monitor.pollCycle probe switch world
    let handled := monitor.escalateAll switch (monitor.observed report).2 (probe world).world
    done.world = handled.world ∧ done.trace =
      (probe world).trace ++ (handled.trace ++ (summary (monitor.observed report).1).map .log) := by
  simp [pollCycle, settle, observed, bind, Act.andThen, found, pure, Act.done, logAll_eq]

theorem logged_truly (positive : 1 ≤ monitor.limits.failureLimit)
    (new : ∀ host, monitor.phase host = none)
    (present : (rounds switch probes monitor world)[i]? = some round) :
    ∃ own, round.polled.trace = round.probed.trace ++ own ∧
      CycleLog monitor.session switch ((rounds switch probes monitor world).take i) round own := by
  have lawful := (rounds_getElem? present).1
  have announced := fun escalation => @announces _ _ _ _ _ _ i escalation positive new present
  obtain ⟨probe, _, start, same⟩ := rounds_of (List.mem_of_getElem? present)
  have probed : round.probed = probe start := congrArg Round.probed same
  have polled : round.polled = round.before.pollCycle probe switch start := congrArg Round.polled same
  rw [lawful.escalations] at announced
  cases found : round.found with
  | error error =>
    have failed : (probe start).value = .error error := probed ▸ found
    refine ⟨[.log (.probeFailed error round.before.ledger.size)], ?_, ?_⟩
    · rw [polled, probed, pollCycle_failed failed]
    · refine .skipped found ?_ (HostTable.hosts_nodup round.before.ledger.phases) (fun host => ?_) ?_
      · rw [lawful.after, found]
        rfl
      · rw [HostTable.mem_hosts_iff, ← Option.ne_none_iff_exists']
        rfl
      · simp [LogEvent.shown, LogEvent.level, LogEvent.message, LogEvent.fields, Ledger.size, HostTable.size,
          HostTable.hosts]
  | ok report =>
    have succeeded : (probe start).value = .ok report := probed ▸ found
    obtain ⟨last, trace⟩ := @pollCycle_observed _ round.before switch _ _ _ succeeded
    rw [← polled] at last trace
    refine ⟨_, probed ▸ trace, .observed found ?_ ?_⟩
    · rw [lawful.escalations, last, probed, found]
      rw [found] at announced
      exact escalateAll_handled announced
    · have summary := @summary_summarizes round.after
      rw [lawful.after, found] at summary ⊢
      exact summary

end Monitor

theorem cycle_log_tells_truth (limits : Limits) (positive : 1 ≤ limits.failureLimit)
    (session : Option Session) (switch : PowerSwitch ω) (probes : List (Probe ω)) (world : ω) :
    let rounds := Monitor.rounds switch probes (Monitor.fresh limits session) world
    rounds.length = probes.length ∧
    ∀ i : Fin rounds.length,
      let round := rounds.get i
      ∃ own, round.polled.trace = round.probed.trace ++ own ∧
        CycleLog session switch (rounds.take i) round own := by
  intro rounds
  refine ⟨Monitor.rounds_length, ?_⟩
  intro i round
  have present : rounds[i.val]? = some round := List.getElem?_eq_getElem i.isLt
  exact Monitor.logged_truly positive (fun _ => rfl) present

-- A host that stays down behind a switch that refuses it; the third of four cycles has no result.
def refusedRounds : List (Round Rehearsal.Script) :=
  Monitor.rounds (Rehearsal.notingSwitch ["n1"]) (List.replicate 4 (Rehearsal.scriptedProbe []))
    (Monitor.fresh ⟨1, 1⟩ none)
    { rounds :=
        [(2, .ok (ProbeReport.parse "n1 | DOWN x\n")), (1, .error (.probeFailed "no route")),
          (1, .ok (ProbeReport.parse "n1 | DOWN x\n"))] }

theorem refusals_told :
    (1 : UInt32) ≤ (⟨1, 1⟩ : Limits).failureLimit ∧ refusedRounds.length = 4 ∧
      ∃ round ∈ refusedRounds,
        round.polled.trace =
          [.log (.restartingAgain "n1" "n1" 2), .log (.rebootFailed "n1" (.rebootFailed "n1" "exit 1")),
            .log (.nodesRebooting (HostTable.empty.insert "n1" 0))] ∧
        CycleLog none (Rehearsal.notingSwitch ["n1"]) (refusedRounds.take 3) round round.polled.trace := by
  have positive : (1 : UInt32) ≤ (⟨1, 1⟩ : Limits).failureLimit := by decide
  obtain ⟨length, cycle⟩ := cycle_log_tells_truth ⟨1, 1⟩ positive none (Rehearsal.notingSwitch ["n1"])
    (List.replicate 4 (Rehearsal.scriptedProbe [])) _
  have fourth : 3 < refusedRounds.length := by
    rw [refusedRounds, length]
    decide
  obtain ⟨own, trace, told⟩ := cycle ⟨3, fourth⟩
  have quiet : ∀ fourth : 3 < refusedRounds.length, refusedRounds[3].probed.trace = [] := by
    decide +kernel
  have logged : ∀ fourth : 3 < refusedRounds.length, refusedRounds[3].polled.trace =
      [.log (.restartingAgain "n1" "n1" 2), .log (.rebootFailed "n1" (.rebootFailed "n1" "exit 1")),
        .log (.nodesRebooting (HostTable.empty.insert "n1" 0))] := by
    decide +kernel
  have same : refusedRounds[3].polled.trace = own := trace.trans (congrArg (· ++ own) (quiet fourth))
  exact ⟨positive, length, refusedRounds[3], List.getElem_mem fourth, logged fourth, same ▸ told⟩

end TestbedWatchdog
