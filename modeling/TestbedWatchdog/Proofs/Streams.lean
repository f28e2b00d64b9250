import TestbedWatchdog.Proofs.PowerSwitch
import TestbedWatchdog.Proofs.Probe.Ping
import TestbedWatchdog.Session.Detection
import TestbedWatchdog.Warden

namespace TestbedWatchdog

namespace Effect

def complaint? : Effect → Option String
  | .stderr text => some text
  | _ => none

structure OfStreams (view : Effect → Option β) : Prop where
  calls : ∀ call reply, view (.attempt call reply) = none
  log : Overlooks view
  waits : ∀ seconds, view (.wait seconds) = none

theorem printed?_ofStreams : OfStreams printed? := ⟨fun _ _ => rfl, fun _ => rfl, fun _ => rfl⟩

theorem complaint?_ofStreams : OfStreams complaint? := ⟨fun _ _ => rfl, fun _ => rfl, fun _ => rfl⟩

end Effect

namespace Done

def complaints (done : Done ω α) : List String := done.seen Effect.complaint?

def output (done : Done ω α) : String := String.join done.printed

end Done

namespace Act

def Silent (act : Act ω α) : Prop :=
  ∀ (view : Effect → Option String), Effect.OfStreams view → ∀ world, (act world).seen view = []

variable {act : Act ω α} {next : α → Act ω γ} {world : ω}

theorem Silent.printed (silent : act.Silent) : (act world).printed = [] :=
  silent _ Effect.printed?_ofStreams world

theorem Silent.complaints (silent : act.Silent) : (act world).complaints = [] :=
  silent _ Effect.complaint?_ofStreams world

theorem Silent.bind (first : act.Silent) (rest : ∀ value, (next value).Silent) : (act >>= next).Silent := by
  intro view streams world
  rw [seen_bind, first view streams, rest _ view streams, List.nil_append]

theorem silent_pure (value : α) : (pure value : Act ω α).Silent := fun _ _ _ => rfl

theorem silent_log (event : LogEvent) : (log event : Act ω Unit).Silent :=
  fun _ streams _ => seen_log streams.log event

theorem silent_wait (seconds : UInt64) : (wait seconds : Act ω Unit).Silent := by
  intro view streams world
  simp [wait, leave, Done.seen, streams.waits seconds]

theorem silent_run (tools : Tools ω) (invocation : Invocation) : (run tools invocation).Silent := by
  intro view streams world
  simp [run_eq, Done.seen, streams.calls]

end Act

theorem Session.detect_silent (tools : Tools ω) (settings : SessionSettings) :
    (Session.detect tools settings).Silent := by
  refine (Act.silent_run tools _).bind fun found => ?_
  cases found with
  | error error => exact Act.silent_pure _
  | ok output => exact Act.silent_pure _

theorem Probe.ping_silent (tools : Tools ω) (settings : ProbeSettings) (hosts : List String) :
    (Probe.ping tools settings hosts).Silent := by
  intro view streams world
  obtain ⟨events, pinged⟩ := ping_eq tools settings hosts world
  rw [pinged, Done.seen, List.filterMap_cons_none (streams.calls _ _)]
  exact Effect.filterMap_log streams.log events

theorem PowerSwitch.ofSettings_silent (tools : Tools ω) (settings : ActuatorSettings) (dryRun : Bool)
    (host : String) : (ofSettings tools settings dryRun host).Silent := by
  cases dryRun with
  | true => exact (Act.silent_log _).bind fun _ => Act.silent_pure _
  | false =>
    intro view streams world
    change (remote tools settings host world).seen view = []
    rw [remote_eq, Done.seen, List.filterMap_cons_none (streams.calls _ _)]
    rfl

theorem Monitor.pollCycle_silent {probe : Probe ω} {switch : PowerSwitch ω} (probed : probe.Silent)
    (switched : ∀ host, (switch host).Silent) (monitor : Monitor) :
    (monitor.pollCycle probe switch).Silent := by
  intro view streams world
  rw [pollCycle_seen streams.log fun host => switched host view streams, probed view streams, List.nil_append]
  exact List.flatMap_eq_nil_iff.mpr fun _ _ => rfl

namespace Warden

variable {equipment : Equipment ω} (probed : equipment.probe.Silent)
  (switched : ∀ host, (equipment.switch host).Silent)

include probed switched

theorem tick_silent (warden : Warden) : (warden.tick equipment).Silent :=
  (Monitor.pollCycle_silent probed switched _).bind fun _ => Act.silent_pure _

theorem loop_silent (interrupt : Option Nat) (bound : Nat) (warden : Warden) :
    (loop equipment interrupt bound warden).Silent := by
  induction bound generalizing warden with
  | zero => exact Act.silent_pure _
  | succ bound ih =>
    refine (tick_silent probed switched warden).bind fun ticked => ?_
    simp only
    cases ticked.2.spent? with
    | some reason => exact Act.silent_pure _
    | none =>
      simp only
      split
      · have farewell : (Monitor.logAll ticked.2.farewell : Act ω Unit).Silent :=
          fun _ streams _ => Monitor.logAll_seen streams.log _
        exact farewell.bind fun _ => Act.silent_pure _
      · exact (Act.silent_wait _).bind fun _ => ih _

theorem run_silent (interrupt : Option Nat) (patience : Nat) (warden : Warden) :
    (warden.run equipment interrupt patience).Silent :=
  (Act.silent_log _).bind fun _ => loop_silent probed switched interrupt _ _

end Warden

end TestbedWatchdog
