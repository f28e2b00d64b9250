import TestbedWatchdog.Proofs.Trace

namespace TestbedWatchdog

namespace PowerSwitch

variable {settings : ActuatorSettings} {dryRun : Bool} {host : String} {reply : Reply}

def answer (settings : ActuatorSettings) (host : String) (reply : Reply) : Except Error Unit :=
  match reply.output (invocation settings host) with
  | .error error => .error (.rebootFailed host error.message)
  | .ok output =>
    if output.status.isSuccess then .ok () else .error (.rebootFailed host (refusal output))

theorem remote_eq (tools : Tools ω) (settings : ActuatorSettings) (host : String) (world : ω) :
    remote tools settings host world =
      let replied := tools (invocation settings host) world
      ⟨answer settings host replied.1, replied.2, [.attempt (invocation settings host) replied.1]⟩ := by
  simp only [remote, answer, bind, Act.andThen, Act.run_eq]
  cases (tools (invocation settings host) world).1.output (invocation settings host) with
  | error error => rfl
  | ok output =>
    simp only
    split
    · rfl
    · rfl

def asked (settings : ActuatorSettings) (dryRun : Bool) (host : String) : List Invocation :=
  if dryRun then [] else [invocation settings host]

end PowerSwitch

end TestbedWatchdog
