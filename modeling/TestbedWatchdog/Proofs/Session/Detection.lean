import TestbedWatchdog.Proofs.Trace
import TestbedWatchdog.Session.Detection

namespace TestbedWatchdog

-- What a reply says the machine is attached to: nothing unless the tool has ended, and with success.
def Reply.session? : Reply → Option Session
  | .ended (.exited 0) stdout stderr =>
    Session.parse? (Output.combined
      ⟨.exited 0, String.ofList (Text.Utf8.lossy stdout), String.ofList (Text.Utf8.lossy stderr)⟩)
  | _ => none

namespace Session

theorem ofOutput_named {call : Invocation} {reply : Reply} (named : reply.session? = some session) :
    ∃ output, reply.output call = .ok output ∧ ofOutput output = .ok session := by
  unfold Reply.session? at named
  split at named
  · rename_i stdout stderr
    refine ⟨_, rfl, ?_⟩
    simp [ofOutput, Status.isSuccess, named]
  · cases named

theorem ofOutput_unnamed {call : Invocation} {reply : Reply} {output : Output}
    (unnamed : reply.session? = none) (ended : reply.output call = .ok output) :
    ∃ error, ofOutput output = .error error := by
  rcases reply.ended_or_failed call with ⟨status, stdout, stderr, rfl⟩ | ⟨error, failed, _⟩
  · cases ended
    cases status with
    | killed => exact ⟨.notAttached, rfl⟩
    | exited code =>
      cases code with
      | succ code => exact ⟨.notAttached, rfl⟩
      | zero =>
        have nothing : parse? _ = none := unnamed
        exact ⟨.sessionUnparsed, by simp [ofOutput, Status.isSuccess, nothing]⟩
  · cases failed.symm.trans ended

theorem detect_eq (tools : Tools ω) (settings : SessionSettings) (world : ω) :
    ∃ result, detect tools settings world =
        ⟨result, (tools (invocation settings) world).2,
          [.attempt (invocation settings) (tools (invocation settings) world).1]⟩ ∧
      match (tools (invocation settings) world).1.session? with
      | some session => result = .ok session
      | none => ∃ error, result = .error error := by
  simp only [detect, bind, Act.andThen, Act.run_eq]
  cases named : (tools (invocation settings) world).1.session? with
  | some session =>
    obtain ⟨output, ended, attached⟩ := @ofOutput_named session (invocation settings) _ named
    rw [ended]
    exact ⟨_, rfl, attached⟩
  | none =>
    cases ended : (tools (invocation settings) world).1.output (invocation settings) with
    | error error => exact ⟨_, rfl, error, rfl⟩
    | ok output => exact ⟨_, rfl, ofOutput_unnamed named ended⟩

end Session

end TestbedWatchdog
