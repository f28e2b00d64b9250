import TestbedWatchdog.Program
import TestbedWatchdog.Proofs.Budget
import TestbedWatchdog.Proofs.PowerSwitch
import TestbedWatchdog.Proofs.Probe.Ping
import TestbedWatchdog.Proofs.Session.Detection

namespace TestbedWatchdog

namespace Warden

variable {equipment : Equipment ω} {warden : Warden} {world : ω} {interrupt : Option Nat}

end Warden

structure Done.Ends (done : Done ω Exit) (calls : List Invocation) (code : Nat) : Prop where
  calls : done.calls = calls
  code : done.value = .code code

namespace Program

variable {around : Surroundings ω} {config : Config} {once : Bool} {line : CommandLine} {flags : WatchFlags}
  {args : List String} {command : Act ω Outcome} {world : ω} {view : Effect → Option β}

def exit : Outcome → Exit
  | .ok exit => exit
  | .error _ => .code 1

theorem run_value (accepted : CommandLine.ofArgs args = .ok line)
    (performed : perform around line = command) :
    (run around args world).value = exit (command world).value := by
  simp only [run, accepted, execute, performed, bind, Act.andThen]
  cases (command world).value with
  | ok => rfl
  | error error => rfl

theorem run_seen (accepted : CommandLine.ofArgs args = .ok line)
    (performed : perform around line = command) (deaf : ∀ text, view (.stderr text) = none) :
    (run around args world).seen view = (command world).seen view := by
  simp only [run, accepted, execute, performed, Act.seen_bind]
  cases (command world).value with
  | ok => exact List.append_nil _
  | error error =>
    simp only [Act.seen_bind, Act.seen_complain deaf, Act.seen_pure, List.append_nil]

theorem run_ends (accepted : CommandLine.ofArgs args = .ok line)
    (performed : perform around line = command) (called : (command world).calls = calls)
    (outcome : exit (command world).value = .code code) : (run around args world).Ends calls code :=
  ⟨(run_seen accepted performed fun _ => rfl).trans called, (run_value accepted performed).trans outcome⟩

theorem run_fails (accepted : CommandLine.ofArgs args = .ok line)
    (failing : perform around line = fail error) : (run around args world).Ends [] 1 :=
  run_ends accepted failing rfl rfl

section Configured

variable {file : Config} {error : Error} (watching : line.command = .watch flags)

include watching

end Configured

theorem watch_unattached
    (alone : (around.tools (Session.invocation config.session) world).1.session? = none) :
    ∃ error, (watch around config once world).value = .error error ∧
      (watch around config once world).calls = [Session.invocation config.session] := by
  obtain ⟨result, detected, named⟩ := Session.detect_eq around.tools config.session world
  rw [alone] at named
  obtain ⟨error, rfl⟩ := named
  refine ⟨error, ?_, ?_⟩
  · simp only [watch, bind, Act.andThen, detected]
    rfl
  · simp only [Done.calls, watch, Act.seen_bind, detected]
    rfl

theorem watch_attached
    (attached : (around.tools (Session.invocation config.session) world).1.session? = some session) :
    let work := (warden config session once).run (equipment around config) around.interrupt around.patience
      (around.tools (Session.invocation config.session) world).2
    (watch around config once world).value =
        .ok (if work.value.1.isSome then .code 0 else .watching) ∧
      (watch around config once world).calls = Session.invocation config.session :: work.calls := by
  obtain ⟨result, detected, named⟩ := Session.detect_eq around.tools config.session world
  rw [attached] at named
  cases named
  constructor
  · simp only [watch, bind, Act.andThen, detected]
    cases config.watchdog.dryRun with
    | true => rfl
    | false => rfl
  · simp only [Done.calls, watch, Act.seen_bind, detected]
    cases config.watchdog.dryRun with
    | true =>
      simp only [if_true, Act.seen_bind, Act.seen_log Effect.call?_overlooks, Act.seen_pure,
        List.append_nil, List.nil_append]
      rfl
    | false =>
      simp only [Bool.false_eq_true, if_false, Act.seen_bind, Act.seen_log Effect.call?_overlooks,
        Act.seen_pure, List.append_nil, List.nil_append]
      rfl

end Program

end TestbedWatchdog
