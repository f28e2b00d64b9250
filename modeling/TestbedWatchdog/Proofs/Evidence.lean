import TestbedWatchdog.Proofs.Outage
import TestbedWatchdog.Proofs.Probe.Ping

namespace TestbedWatchdog

theorem commanded_failed_this_cycle (tools : Tools ω) (config : Config) (limits : Limits)
    (session : Option Session) (switch : PowerSwitch ω) (cycles : Nat) (world : ω) :
    let hosts := config.watchdog.hosts
    let probes := List.replicate cycles (Probe.ping tools config.probe hosts)
    let rounds := Monitor.rounds switch probes (Monitor.fresh limits session) world
    rounds.length = cycles ∧
    ∀ i : Fin rounds.length, let round := rounds.get i; ∃ reply, round.probed.replies = [reply] ∧
      (∀ host ∈ round.commanded,
        (∃ status, reply.Tells host status ∧ status ≠ "SUCCESS") ∧
        (hosts ≠ [] → host ∈ hosts) ∧
        round.commanded.count host = 1) ∧
      (∀ error, round.found = .error error → round.commanded = []) ∧
      ∀ host, (∀ status, reply.Tells host status → status = "SUCCESS") → host ∉ round.commanded := by
  intro hosts probes rounds
  refine ⟨Monitor.rounds_length.trans List.length_replicate, ?_⟩
  intro i round
  have present : rounds[i.val]? = some round := List.getElem?_eq_getElem i.isLt
  have lawful := (Monitor.rounds_getElem? present).1
  obtain ⟨reply, replies, found⟩ := Round.pinged (List.mem_of_getElem? present)
  have evidence (host : String) (commanded : host ∈ round.commanded) :
      (hosts = [] ∨ host ∈ hosts) ∧ ∃ status, reply.Tells host status ∧ status ≠ "SUCCESS" := by
    have down := Monitor.down_of_commanded lawful commanded
    rw [found] at down
    exact Probe.judge_down_iff.mp down
  refine ⟨reply, replies, ?_, ?_, ?_⟩
  · intro host commanded
    obtain ⟨allowed, failed⟩ := evidence host commanded
    refine ⟨failed, allowed.resolve_left, ?_⟩
    have distinct : round.commanded.Nodup := lawful.commanded ▸ Monitor.escalations_nodup
    exact List.count_eq_one_of_mem distinct commanded
  · intro error failed
    rw [lawful.commanded, failed]
    rfl
  · intro host fine commanded
    obtain ⟨_, status, told, failed⟩ := evidence host commanded
    exact failed (fine status told)

-- A host that fails by one of its names, a cycle without a result, and the failure that is one too many.
def relapse : List (Round (List Reply)) :=
  Monitor.rounds PowerSwitch.dead (List.replicate 3 (Probe.ping Tools.scripted {} []))
    (Monitor.fresh ⟨2, 0⟩ none)
    [.printed "n1 | SUCCESS => x\nn1.lab | DOWN => x\n", .late, .printed "n1.lab | DOWN => x\n"]

theorem commanded_on_relapse :
    relapse.map (·.commanded) = [[], [], ["n1"]] ∧
      ∃ round ∈ relapse, ∃ reply, round.probed.replies = [reply] ∧
        ∃ status, reply.Tells "n1" status ∧ status ≠ "SUCCESS" := by
  have commands : relapse.map (·.commanded) = [[], [], ["n1"]] := by decide +kernel
  refine ⟨commands, ?_⟩
  obtain ⟨length, cycle⟩ := commanded_failed_this_cycle Tools.scripted {} ⟨2, 0⟩ none
    PowerSwitch.dead 3 _
  have third : 2 < relapse.length := by
    rw [relapse, length]
    decide
  obtain ⟨reply, replies, evidence, _⟩ := cycle ⟨2, third⟩
  have commanded : ∀ third : 2 < relapse.length, "n1" ∈ relapse[2].commanded := by decide +kernel
  exact ⟨relapse[2], List.getElem_mem third, reply, replies, (evidence "n1" (commanded third)).1⟩

end TestbedWatchdog
