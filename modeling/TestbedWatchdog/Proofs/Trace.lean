import TestbedWatchdog.Proofs.Course

namespace TestbedWatchdog

namespace Effect

def call? : Effect → Option Invocation
  | .attempt call _ => some call
  | _ => none

def printed? : Effect → Option String
  | .stdout text => some text
  | _ => none

def Overlooks (view : Effect → Option β) : Prop := ∀ event, view (.log event) = none

theorem call?_overlooks : Overlooks call? := fun _ => rfl

theorem filterMap_log {view : Effect → Option β} (quiet : Overlooks view) (events : List LogEvent) :
    (events.map .log).filterMap view = [] := by
  simp [quiet _]

end Effect

namespace Done

def seen (view : Effect → Option β) (done : Done ω α) : List β := done.trace.filterMap view

def calls (done : Done ω α) : List Invocation := done.seen Effect.call?

def printed (done : Done ω α) : List String := done.seen Effect.printed?

end Done

theorem Reply.ended_or_failed (call : Invocation) (reply : Reply) :
    (∃ status stdout stderr, reply = .ended status stdout stderr) ∨
      ∃ error, reply.output call = .error error ∧
        ∀ status stdout stderr, reply ≠ .ended status stdout stderr := by
  cases reply with
  | ended status stdout stderr => exact .inl ⟨status, stdout, stderr, rfl⟩
  | refused cause => exact .inr ⟨_, rfl, nofun⟩
  | lost cause => exact .inr ⟨_, rfl, nofun⟩
  | late => exact .inr ⟨_, rfl, nofun⟩

variable {view : Effect → Option β} {world : ω}

namespace Act

theorem seen_bind (act : Act ω α) (next : α → Act ω γ) (world : ω) :
    ((act >>= next) world).seen view =
      (act world).seen view ++ (next (act world).value (act world).world).seen view :=
  List.filterMap_append

theorem seen_pure (value : α) : ((pure value : Act ω α) world).seen view = [] := rfl

theorem seen_log (quiet : Effect.Overlooks view) (event : LogEvent) :
    (log event world).seen view = [] := by
  simp [log, leave, Done.seen, quiet event]

theorem seen_complain (deaf : ∀ text, view (.stderr text) = none) (text : String) :
    (complain text world).seen view = [] := by
  simp [complain, leave, Done.seen, deaf text]

theorem run_eq (tools : Tools ω) (invocation : Invocation) (world : ω) :
    run tools invocation world =
      let answer := tools invocation world
      ⟨answer.1.output invocation, answer.2, [.attempt invocation answer.1]⟩ := rfl

end Act

namespace Monitor

variable {switch : PowerSwitch ω} {asked : String → List β}

theorem logAll_seen (quiet : Effect.Overlooks view) (events : List LogEvent) :
    (logAll events world).seen view = [] := by
  rw [logAll_eq]
  exact Effect.filterMap_log quiet events

theorem escalate_seen (quiet : Effect.Overlooks view) (monitor : Monitor) (escalation : Escalation) :
    (monitor.escalate switch escalation world).seen view = (switch escalation.host world).seen view := by
  have same : (Act.log (monitor.announcement escalation) world).world = world := rfl
  unfold escalate
  rw [Act.seen_bind, Act.seen_log quiet, List.nil_append, Act.seen_bind, same]
  cases (switch escalation.host world).value with
  | ok => exact List.append_nil _
  | error error =>
    simp only [Act.seen_bind, Act.seen_log quiet, Act.seen_pure, List.append_nil]

-- What a switch shows does not hang on the world, nor on what it has answered before.
theorem escalateAll_seen (quiet : Effect.Overlooks view)
    (asks : ∀ host world, (switch host world).seen view = asked host) (monitor : Monitor)
    (escalations : List Escalation) :
    (monitor.escalateAll switch escalations world).seen view =
      (escalations.map (·.host)).flatMap asked := by
  induction escalations generalizing world with
  | nil => rfl
  | cons escalation rest ih =>
    unfold escalateAll
    rw [Act.seen_bind, Act.seen_bind, escalate_seen quiet, asks, ih]
    exact congrArg (asked escalation.host ++ ·) (List.append_nil _)

theorem settle_seen (quiet : Effect.Overlooks view)
    (asks : ∀ host world, (switch host world).seen view = asked host) (monitor : Monitor)
    (found : Except Error ProbeReport) :
    (monitor.settle switch found world).seen view =
      ((monitor.escalations found).map (·.host)).flatMap asked := by
  cases found with
  | error error =>
    unfold settle
    rw [Act.seen_bind, Act.seen_log quiet]
    rfl
  | ok report =>
    unfold settle
    simp only [Act.seen_bind, escalateAll_seen quiet asks, logAll_seen quiet, Act.seen_pure,
      List.append_nil]
    rfl

theorem pollCycle_seen (quiet : Effect.Overlooks view)
    (asks : ∀ host world, (switch host world).seen view = asked host) (monitor : Monitor)
    (probe : Probe ω) (world : ω) :
    (monitor.pollCycle probe switch world).seen view =
      (probe world).seen view ++ ((monitor.escalations (probe world).value).map (·.host)).flatMap asked := by
  unfold pollCycle
  rw [Act.seen_bind, settle_seen quiet asks]

end Monitor

end TestbedWatchdog
