import TestbedWatchdog.Proofs.Forgetting
import TestbedWatchdog.Proofs.Probe.Transcript
import TestbedWatchdog.Proofs.Text.Utf8

namespace TestbedWatchdog

def Watchable (host : String) : Prop := '.' ∉ host.toList ∧ ∀ c ∈ host.toList, Text.isBlank c = false

theorem Reply.Tells.watchable {reply : Reply} (told : reply.Tells host status) : Watchable host := by
  obtain ⟨_, _, _, _, line, _, spoken⟩ := told
  have reportable := ProbeReport.reportable_of_line spoken
  exact ⟨reportable.short, reportable.named.ink⟩

theorem Watchable.isWord (watchable : Watchable host) (named : Config.isBlank host = false) :
    Text.IsWord host.toList := by
  refine ⟨?_, watchable.2⟩
  intro none
  rw [Config.isBlank, none] at named
  cases named

def Reply.fails (host : String) : Reply :=
  .ended (.exited 4) (Text.bytes (ProbeReport.row id (host, "UNREACHABLE!"))) []

theorem Reply.fails_tells (word : Text.IsWord host.toList) (short : '.' ∉ host.toList) :
    (Reply.fails host).Tells host "UNREACHABLE!" := by
  have reportable : ProbeReport.Reportable host "UNREACHABLE!" := ⟨word, short, by decide⟩
  have plain := ProbeReport.row_plain ProbeReport.recognizable_id reportable
  have single : '\n' ∉ (ProbeReport.row id (host, "UNREACHABLE!")).toList :=
    fun newline => (plain '\n' newline).1 rfl
  have read : Text.Utf8.lossy (Text.bytes (ProbeReport.row id (host, "UNREACHABLE!"))) =
      (ProbeReport.row id (host, "UNREACHABLE!")).toList := by
    rw [← Text.decoded_toList, Text.decoded_bytes]
  refine ⟨_, _, _, rfl, (ProbeReport.row id (host, "UNREACHABLE!")).toList, ?_,
    ProbeReport.row_status ProbeReport.recognizable_id reportable⟩
  rw [read, Text.lines_single single (ProbeReport.row_ne_nil _)]
  exact List.mem_singleton_self _

namespace Probe

variable {settings : ProbeSettings} {hosts : List String} {reply : Reply} {host : String}

theorem judge_watchable (seen : Sighting.ofResult host (judge settings hosts reply) = .down) :
    Watchable host := by
  obtain ⟨_, _, told, _⟩ := judge_down_iff.mp seen
  exact told.watchable

theorem judge_down_iff_unreachable : Sighting.ofResult host (judge settings hosts reply) = .down ↔
    ∃ report, judge settings hosts reply = .ok report ∧ report.unreachable.contains host = true := by
  cases judge settings hosts reply with
  | error error => simp [Sighting.ofResult]
  | ok report => simp [Sighting.ofResult_down_iff, ProbeReport.unreachable_contains]

theorem missing_of_not_watchable (listed : host ∈ hosts) (unwatchable : ¬ Watchable host)
    (judged : judge settings hosts reply = .ok report) : report.missing.contains host = true := by
  rcases judge_cases settings hosts reply with ⟨error, failed, _⟩ | ⟨output, parsed, decoded⟩
  · cases failed.symm.trans judged
  · obtain rfl := Except.ok.inj (parsed.symm.trans judged)
    have silent : (ProbeReport.parse output).statuses.get? host = none :=
      ProbeReport.parse_silent_iff.mpr fun status told =>
        unwatchable ((decoded host status).mpr told).watchable
    exact (ProbeReport.restrictTo_missing_of_any (List.ne_nil_of_mem listed)).mpr ⟨listed, .inl silent⟩

end Probe

namespace Monitor

variable {tools : Tools ω} {settings : ProbeSettings} {hosts : List String} {host : String}
  {switch : PowerSwitch ω} {monitor : Monitor} {world : ω} {round : Round ω}

theorem untracked_of_not_watchable (unwatchable : ¬ Watchable host) (new : monitor.phase host = none)
    (present : round ∈
      rounds switch (List.replicate cycles (Probe.ping tools settings hosts)) monitor world) :
    round.before.phase host = none ∧ round.after.phase host = none ∧ host ∉ round.commanded := by
  have never (reply : Reply) : Sighting.ofResult host (Probe.judge settings hosts reply) ≠ .down :=
    fun down => unwatchable (Probe.judge_watchable down)
  obtain ⟨i, placed⟩ := List.getElem?_of_mem present
  obtain ⟨lawful, before⟩ := rounds_getElem? placed
  obtain ⟨reply, _, found⟩ := Round.pinged present
  have untracked : round.before.phase host = none := by
    rw [before]
    refine phase_of_never_down (fun earlier member => ?_) new
    obtain ⟨other, rfl⟩ := pinged_results (fun _ taken => List.mem_of_mem_take taken) earlier member
    exact never other
  have reached : Sighting.ofResult host round.found ≠ .down := found ▸ never reply
  refine ⟨untracked, ?_, fun commanded => reached (down_of_commanded lawful commanded)⟩
  rw [after_phase lawful, untracked]
  exact Phase.next_none reached

end Monitor

theorem watched_iff_short_word (config : Config) (valid : config.validate = .ok ()) (host : String)
    (listed : host ∈ config.watchdog.hosts) :
    let hosts := config.watchdog.hosts
    ((∃ reply, ∀ (place : Type) (tools : Tools place) (world : place),
        (tools (Probe.invocation config.probe) world).1 = reply →
          ∃ report, (Probe.ping tools config.probe hosts world).value = .ok report ∧
            report.unreachable.contains host = true) ↔
      '.' ∉ host.toList ∧ ∀ c ∈ host.toList, Text.isBlank c = false) ∧
    ('.' ∈ host.toList ∨ (∃ c ∈ host.toList, Text.isBlank c = true) →
      ∀ (ω : Type) (tools : Tools ω) (limits : Limits) (session : Option Session)
        (switch : PowerSwitch ω) (cycles : Nat) (world : ω),
        let probes := List.replicate cycles (Probe.ping tools config.probe hosts)
        ∀ round ∈ Monitor.rounds switch probes (Monitor.fresh limits session) world,
          (∀ report, round.found = .ok report → report.missing.contains host = true) ∧
          round.before.phase host = none ∧ round.after.phase host = none ∧ host ∉ round.commanded) := by
  intro hosts
  constructor
  · constructor
    · rintro ⟨reply, reports⟩
      obtain ⟨report, found, unreachable⟩ := reports Unit (fun _ _ => (reply, ())) () rfl
      rw [(Probe.ping_judges _ _ _ _).2] at found
      exact Probe.judge_watchable (Probe.judge_down_iff_unreachable.mpr ⟨report, found, unreachable⟩)
    · intro watchable
      have word := Watchable.isWord watchable (Config.not_isBlank_of_validate valid listed)
      refine ⟨.fails host, fun place tools world replied => ?_⟩
      rw [(Probe.ping_judges _ _ _ _).2, replied]
      refine Probe.judge_down_iff_unreachable.mp (Probe.judge_down_iff.mpr ⟨.inr listed, "UNREACHABLE!", ?_⟩)
      exact ⟨Reply.fails_tells word watchable.1, by decide⟩
  · intro odd ω tools limits session switch cycles world probes round present
    have unwatchable : ¬ Watchable host := by
      rintro ⟨short, ink⟩
      rcases odd with dotted | ⟨c, inside, blank⟩
      · exact short dotted
      · rw [ink c inside] at blank
        cases blank
    obtain ⟨reply, _, found⟩ := Round.pinged present
    refine ⟨fun report reported => ?_, Monitor.untracked_of_not_watchable unwatchable rfl present⟩
    exact Probe.missing_of_not_watchable listed unwatchable (found.symm.trans reported)

-- A host that is listed by both of its names, and fails by both.
def twoNames : Config := { watchdog := { hosts := ["n1", "n1.lab"] } }

theorem watched_by_short_name_only :
    let tools : Tools Unit := fun _ _ => (.printed "n1.lab | DOWN => x\nn1 | DOWN => x\n", ())
    let rounds := Monitor.rounds PowerSwitch.dead
      (List.replicate 2 (Probe.ping tools twoNames.probe twoNames.watchdog.hosts))
      (Monitor.fresh ⟨2, 5⟩ none) ()
    twoNames.validate = .ok () ∧ "n1" ∈ twoNames.watchdog.hosts ∧ "n1.lab" ∈ twoNames.watchdog.hosts ∧
      rounds.map (·.commanded) = [[], ["n1"]] ∧
      (∃ reply, ∀ (place : Type) (tools : Tools place) (world : place),
        (tools (Probe.invocation twoNames.probe) world).1 = reply →
          ∃ report, (Probe.ping tools twoNames.probe twoNames.watchdog.hosts world).value = .ok report ∧
            report.unreachable.contains "n1" = true) ∧
      ∀ round ∈ rounds, (∀ report, round.found = .ok report → report.missing.contains "n1.lab" = true) ∧
        round.after.phase "n1.lab" = none := by
  intro tools rounds
  have valid : twoNames.validate = .ok () := by decide +kernel
  have short : "n1" ∈ twoNames.watchdog.hosts := by decide
  have full : "n1.lab" ∈ twoNames.watchdog.hosts := by decide
  have watchable := (watched_iff_short_word twoNames valid "n1" short).1.mpr
    ⟨by decide, List.all_iff_forall_prop.mp (by decide)⟩
  have unwatched := (watched_iff_short_word twoNames valid "n1.lab" full).2 (.inl (by decide))
  refine ⟨valid, short, full, by decide +kernel, watchable, fun round present => ?_⟩
  obtain ⟨missing, _, untracked, _⟩ := unwatched Unit tools ⟨2, 5⟩ none PowerSwitch.dead 2 () round present
  exact ⟨missing, untracked⟩

end TestbedWatchdog
