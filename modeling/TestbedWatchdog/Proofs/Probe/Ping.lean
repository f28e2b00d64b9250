import TestbedWatchdog.Probe.Ping
import TestbedWatchdog.Proofs.Course.Host
import TestbedWatchdog.Proofs.Probe.Report
import TestbedWatchdog.Proofs.Text.Utf8
import TestbedWatchdog.Proofs.Trace

namespace TestbedWatchdog

def Done.replies (done : Done ω α) : List Reply :=
  done.trace.filterMap fun effect =>
    match effect with
    | .attempt _ reply => some reply
    | _ => none

def Reply.Tells (reply : Reply) (host status : String) : Prop :=
  ∃ exit stdout stderr, reply = .ended exit stdout stderr ∧
    ProbeReport.Tells (Text.Utf8.lossy stdout) host status

namespace Probe

variable {settings : ProbeSettings} {hosts : List String} {reply : Reply} {host : String}

def judge (settings : ProbeSettings) (hosts : List String) (reply : Reply) : Except Error ProbeReport :=
  match reply.output (invocation settings) with
  | .error error => .error (.probeFailed error.message)
  | .ok output => read hosts output

theorem ping_eq (tools : Tools ω) (settings : ProbeSettings) (hosts : List String) (world : ω) :
    let replied := tools (invocation settings) world
    ∃ events : List LogEvent, ping tools settings hosts world =
      ⟨judge settings hosts replied.1, replied.2,
        .attempt (invocation settings) replied.1 :: events.map .log⟩ := by
  intro replied
  simp only [replied, ping, judge, bind, Act.andThen, Act.run_eq]
  cases (tools (invocation settings) world).1.output (invocation settings) with
  | error error => exact ⟨[], rfl⟩
  | ok output =>
    simp only
    cases read hosts output with
    | error error => exact ⟨[], rfl⟩
    | ok report =>
      simp only
      cases report.missing.isEmpty with
      | true => exact ⟨[], rfl⟩
      | false => exact ⟨[.silentHosts report.missing], rfl⟩

theorem ping_judges (tools : Tools ω) (settings : ProbeSettings) (hosts : List String) (world : ω) :
    let reply := (tools (invocation settings) world).1
    let done := ping tools settings hosts world
    done.replies = [reply] ∧ done.value = judge settings hosts reply := by
  intro reply done
  obtain ⟨events, pinged⟩ := ping_eq tools settings hosts world
  simp only [done, pinged]
  exact ⟨congrArg (reply :: ·) (Effect.filterMap_log (fun _ => rfl) events), rfl⟩

theorem judge_of_failed (failed : reply.output (invocation settings) = .error error) :
    judge settings hosts reply = .error (.probeFailed error.message) := by
  rw [judge, failed]

theorem judge_ended (settings : ProbeSettings) (hosts : List String) (exit : Status)
    (stdout stderr : List UInt8) : judge settings hosts (.ended exit stdout stderr) =
      read hosts ⟨exit, Text.decoded stdout, Text.decoded stderr⟩ := rfl

variable {exit : Status} {stdout stderr : List UInt8}

theorem judge_informed (informed : ProbeReport.HasStatusLine (Text.decoded stdout).toList) :
    judge settings hosts (.ended exit stdout stderr) =
      .ok ((ProbeReport.parse (Text.decoded stdout)).restrictTo hosts) := by
  rw [judge_ended]
  exact if_neg fun nothing => (ProbeReport.isEmpty_parse_iff _).mp nothing informed

theorem judge_uninformed (silent : ¬ ProbeReport.HasStatusLine (Text.decoded stdout).toList) :
    judge settings hosts (.ended exit stdout stderr) =
      .error (noStatus ⟨exit, Text.decoded stdout, Text.decoded stderr⟩) := by
  rw [judge_ended]
  exact if_pos ((ProbeReport.isEmpty_parse_iff _).mpr silent)

-- Either there is no status line at all, or the result is the report on the status lines.
theorem judge_cases (settings : ProbeSettings) (hosts : List String) (reply : Reply) :
    (∃ error, judge settings hosts reply = .error error ∧ ∀ host status, ¬ reply.Tells host status) ∨
      ∃ output, judge settings hosts reply = .ok ((ProbeReport.parse output).restrictTo hosts) ∧
        ∀ host status, reply.Tells host status ↔ ProbeReport.Tells output.toList host status := by
  rcases reply.ended_or_failed (invocation settings) with
    ⟨exit, stdout, stderr, rfl⟩ | ⟨error, failed, running⟩
  · have decoded (host status : String) : Reply.Tells (.ended exit stdout stderr) host status ↔
        ProbeReport.Tells (Text.decoded stdout).toList host status := by
      rw [Text.decoded_toList]
      constructor
      · intro given
        obtain ⟨_, _, _, same, told⟩ := given
        cases same
        exact told
      · intro told
        exact ⟨exit, stdout, stderr, rfl, told⟩
    by_cases informed : ProbeReport.HasStatusLine (Text.decoded stdout).toList
    · exact .inr ⟨Text.decoded stdout, judge_informed informed, decoded⟩
    · refine .inl ⟨_, judge_uninformed informed, fun host status told => informed ?_⟩
      obtain ⟨line, present, spoken⟩ := (decoded host status).mp told
      exact ⟨line, present, host, status, spoken⟩
  · refine .inl ⟨_, judge_of_failed failed, ?_⟩
    intro host status told
    obtain ⟨exit, stdout, stderr, ended, _⟩ := told
    exact running exit stdout stderr ended

theorem judge_down_iff : Sighting.ofResult host (judge settings hosts reply) = .down ↔
    (hosts = [] ∨ host ∈ hosts) ∧ ∃ status, reply.Tells host status ∧ status ≠ ProbeReport.answered := by
  rcases judge_cases settings hosts reply with ⟨error, failed, silent⟩ | ⟨output, parsed, decoded⟩
  · rw [failed]
    simp [Sighting.ofResult, silent]
  · rw [parsed, Sighting.ofResult_down_iff, ProbeReport.restrictTo_statuses]
    by_cases listed : hosts = [] ∨ host ∈ hosts
    · rw [if_pos listed, ProbeReport.parse_failed_iff]
      simp only [decoded, listed, true_and]
    · simp [listed]

-- A list without repeats has no host among the missing that also has a status.
theorem judge_clear_iff (distinct : hosts.Nodup) (listed : host ∈ hosts) :
    Sighting.ofResult host (judge settings hosts reply) = .clear ↔
      (∃ status, reply.Tells host status) ∧
        ∀ status, reply.Tells host status → status = ProbeReport.answered := by
  have some : hosts ≠ [] := List.ne_nil_of_mem listed
  rcases judge_cases settings hosts reply with ⟨error, failed, silent⟩ | ⟨output, parsed, decoded⟩
  · rw [failed]
    simp [Sighting.ofResult, silent]
  · rw [parsed, Sighting.ofResult_clear_iff, ProbeReport.restrictTo_statuses,
      ProbeReport.restrictTo_missing some distinct, if_pos (.inr listed)]
    simp only [decoded]
    rw [← ProbeReport.parse_answered_iff]
    cases (ProbeReport.parse output).statuses.get? host with
    | none => simp [listed]
    | some status => simp

theorem judge_unknown (distinct : hosts.Nodup) (listed : host ∈ hosts)
    (silent : ∀ status, ¬ reply.Tells host status) :
    Sighting.ofResult host (judge settings hosts reply) = .unknown := by
  cases seen : Sighting.ofResult host (judge settings hosts reply) with
  | unknown => rfl
  | down =>
    obtain ⟨_, status, told, _⟩ := judge_down_iff.mp seen
    exact absurd told (silent status)
  | clear =>
    obtain ⟨⟨status, told⟩, _⟩ := (judge_clear_iff distinct listed).mp seen
    exact absurd told (silent status)

theorem judge_unlisted (listed : hosts ≠ []) (outside : host ∉ hosts) :
    Sighting.ofResult host (judge settings hosts reply) ≠ .down := by
  intro seen
  rcases (judge_down_iff.mp seen).1 with none | inside
  · exact listed none
  · exact outside inside

theorem judge_partition (listed : hosts ≠ []) (distinct : hosts.Nodup)
    (judged : judge settings hosts reply = .ok report) :
    (report.statuses.hosts ++ report.missing.hosts).Perm hosts := by
  rcases judge_cases settings hosts reply with ⟨error, failed, _⟩ | ⟨output, parsed, _⟩
  · rw [failed] at judged
    cases judged
  · rw [parsed] at judged
    cases judged
    exact ProbeReport.restrictTo_partition listed distinct

theorem judge_of_tells (told : reply.Tells host status) :
    ∃ report, judge settings hosts reply = .ok report := by
  rcases judge_cases settings hosts reply with ⟨error, _, silent⟩ | ⟨output, parsed, _⟩
  · exact absurd told (silent host status)
  · exact ⟨_, parsed⟩

end Probe

theorem Round.pinged {tools : Tools ω} {switch : PowerSwitch ω} {monitor : Monitor} {world : ω}
    {round : Round ω} (present : round ∈ Monitor.rounds switch
      (List.replicate cycles (Probe.ping tools settings hosts)) monitor world) :
    ∃ reply, round.probed.replies = [reply] ∧ round.found = Probe.judge settings hosts reply := by
  obtain ⟨probe, member, before, same⟩ := Monitor.rounds_probed present
  obtain rfl := List.eq_of_mem_replicate member
  obtain ⟨replies, value⟩ := Probe.ping_judges tools settings hosts before
  refine ⟨(tools (Probe.invocation settings) before).1, ?_, ?_⟩
  · rw [same]
    exact replies
  · unfold found
    rw [same]
    exact value

def Tools.scripted : Tools (List Reply) := fun _ script => (script.headD .late, script.tail)

def PowerSwitch.dead : PowerSwitch ω := fun host => pure (.error (.rebootFailed host "no answer"))

def Reply.printed (text : String) : Reply :=
  .ended (.exited 4) (text.toList.map fun c => c.toNat.toUInt8) []

end TestbedWatchdog
