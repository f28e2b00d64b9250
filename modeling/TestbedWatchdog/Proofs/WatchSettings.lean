import TestbedWatchdog.Proofs.Config.Merging
import TestbedWatchdog.Proofs.Reporting

namespace TestbedWatchdog

def LogEvent.tellsSettings : LogEvent → Bool
  | .dryRun | .started .. | .restarting .. | .restartingAgain .. | .wouldPowerCycle _ => true
  | _ => false

namespace Config

def Watches (config : Config) (host : String) : Prop :=
  config.watchdog.hosts = [] ∨ host ∈ config.watchdog.hosts

inductive Admits (config : Config) : Effect → Prop
  | detection : Admits config (.attempt (Session.invocation config.session) reply)
  | ping : Admits config (.attempt (Probe.invocation config.probe) reply)
  | powerCycle (real : config.watchdog.dryRun = false) (watched : config.Watches host) :
      Admits config (.attempt (PowerSwitch.invocation config.actuator host) reply)
  | rehearsal (dry : config.watchdog.dryRun = true) (watched : config.Watches host) :
      Admits config (.log (.wouldPowerCycle host))
  | dryRun (dry : config.watchdog.dryRun = true) : Admits config (.log .dryRun)
  | started : Admits config
      (.log (.started config.watchdog.interval ⟨config.watchdog.failureLimit, config.watchdog.rebootLimit⟩))
  | restarting (watched : config.Watches host) :
      Admits config (.log (.restarting host node config.watchdog.failureLimit))
  | restartingAgain (watched : config.Watches host) (late : config.watchdog.rebootLimit < checks) :
      Admits config (.log (.restartingAgain host node checks))
  | wait : Admits config (.wait config.watchdog.interval)
  | event (silent : event.tellsSettings = false) : Admits config (.log event)
  | complaint : Admits config (.stderr said)

end Config

def Act.Leaves (kind : Effect → Prop) (act : Act ω α) : Prop :=
  ∀ world, ∀ effect ∈ (act world).trace, kind effect

namespace Act

variable {kind : Effect → Prop} {act : Act ω α} {next : α → Act ω β}

theorem leaves_pure (value : α) : (pure value : Act ω α).Leaves kind :=
  fun _ _ present => absurd present List.not_mem_nil

theorem leaves_one (fits : kind effect) : (leave effect : Act ω Unit).Leaves kind := by
  intro world left present
  rw [List.mem_singleton.mp present]
  exact fits

-- What comes next has to be looked at only for the values that the first act can have.
theorem Leaves.bind (first : act.Leaves kind) (rest : ∀ world, (next (act world).value).Leaves kind) :
    (act >>= next).Leaves kind := by
  intro world effect present
  rcases List.mem_append.mp present with early | late
  · exact first world effect early
  · exact rest world _ effect late

theorem leaves_run {tools : Tools ω} (fits : ∀ reply, kind (.attempt invocation reply)) :
    (run tools invocation).Leaves kind := by
  intro world effect present
  rw [List.mem_singleton.mp present]
  exact fits _

end Act

variable {around : Surroundings ω} {config : Config} {tools : Tools ω} {monitor : Monitor}

theorem Session.detect_leaves : (Session.detect tools config.session).Leaves config.Admits := by
  refine (Act.leaves_run fun _ => .detection).bind fun world => ?_
  split
  · exact Act.leaves_pure _
  · exact Act.leaves_pure _

theorem Probe.ping_leaves (hosts : List String) :
    (Probe.ping tools config.probe hosts).Leaves config.Admits := by
  refine (Act.leaves_run fun _ => .ping).bind fun world => ?_
  split
  · exact Act.leaves_pure _
  · split
    · exact Act.leaves_pure _
    · split
      · exact (Act.leaves_one (.event rfl)).bind fun _ => Act.leaves_pure _
      · exact Act.leaves_pure _

theorem PowerSwitch.ofSettings_leaves (watched : config.Watches host) :
    (PowerSwitch.ofSettings tools config.actuator config.watchdog.dryRun host).Leaves config.Admits := by
  cases dry : config.watchdog.dryRun with
  | true => exact (Act.leaves_one (.rehearsal dry watched)).bind fun _ => Act.leaves_pure _
  | false =>
    refine (Act.leaves_run fun _ => .powerCycle dry watched).bind fun world => ?_
    split
    · exact Act.leaves_pure _
    · split
      · exact Act.leaves_pure _
      · exact Act.leaves_pure _

theorem Phase.late_of_again {limits : Limits} {phase : Option Phase} {waited : UInt32}
    (due : escalation? limits phase seen = some (.again waited)) : limits.rebootLimit < waited := by
  cases seen with
  | unknown | clear => cases due
  | down =>
    simp only [escalation?, due?] at due
    split at due
    · split at due
      · cases due
      · cases due
    · split at due
      · rename_i late
        cases due
        exact late
      · cases due

namespace Monitor

structure Goes (config : Config) (monitor : Monitor) (escalation : Escalation) : Prop where
  watched : config.Watches escalation.host
  late : ∀ waited, escalation.kind = .again waited → monitor.limits.rebootLimit < waited

theorem goes_of_pinged {world : ω} (present : escalation ∈
      monitor.escalations (Probe.ping tools config.probe config.watchdog.hosts world).value) :
    Goes config monitor escalation := by
  obtain ⟨host, kind⟩ := escalation
  have due := mem_escalations.mp present
  constructor
  · have down : Sighting.ofResult host
        (Probe.ping tools config.probe config.watchdog.hosts world).value = .down := by
      by_contra reached
      rw [Phase.escalation?_of_not_down reached] at due
      cases due
    rw [(Probe.ping_judges _ _ _ _).2, Probe.judge_down_iff] at down
    exact down.1
  · rintro waited rfl
    exact Phase.late_of_again due

section Steps

variable (limited : monitor.limits = config.limits)

include limited

theorem announcement_admitted (goes : Goes config monitor escalation) :
    config.Admits (.log (monitor.announcement escalation)) := by
  have late := goes.late
  unfold announcement
  rw [limited] at late ⊢
  cases kind : escalation.kind with
  | initial => exact .restarting goes.watched
  | again waited => exact .restartingAgain goes.watched (late waited kind)

theorem escalate_leaves (goes : Goes config monitor escalation) :
    (monitor.escalate (PowerSwitch.ofSettings tools config.actuator config.watchdog.dryRun)
      escalation).Leaves config.Admits := by
  refine (Act.leaves_one (announcement_admitted limited goes)).bind fun _ => ?_
  refine (PowerSwitch.ofSettings_leaves goes.watched).bind fun world => ?_
  split
  · exact Act.leaves_pure _
  · exact (Act.leaves_one (.event rfl)).bind fun _ => Act.leaves_pure _

theorem escalateAll_leaves (escalations : List Escalation)
    (go : ∀ escalation ∈ escalations, Goes config monitor escalation) :
    (monitor.escalateAll (PowerSwitch.ofSettings tools config.actuator config.watchdog.dryRun)
      escalations).Leaves config.Admits := by
  induction escalations with
  | nil => exact Act.leaves_pure _
  | cons escalation rest ih =>
    refine (escalate_leaves limited (go _ List.mem_cons_self)).bind fun _ => ?_
    refine (ih fun later present => go later (List.mem_cons_of_mem _ present)).bind fun _ => ?_
    exact Act.leaves_pure _

end Steps

theorem logAll_leaves {events : List LogEvent} (silent : ∀ event ∈ events, event.tellsSettings = false) :
    (logAll events : Act ω Unit).Leaves config.Admits := by
  intro world effect present
  rw [logAll_eq] at present
  obtain ⟨event, among, rfl⟩ := List.mem_map.mp present
  exact .event (silent event among)

theorem summary_silent (ledger : Ledger) : ∀ event ∈ summary ledger, event.tellsSettings = false := by
  unfold summary
  split
  · simp [LogEvent.tellsSettings]
  · intro event present
    rcases List.mem_append.mp present with bad | rebooting
    · split at bad
      · cases bad
      · rw [List.mem_singleton.mp bad]
        rfl
    · split at rebooting
      · cases rebooting
      · rw [List.mem_singleton.mp rebooting]
        rfl

theorem settle_leaves (limited : monitor.limits = config.limits) (found : Except Error ProbeReport)
    (go : ∀ escalation ∈ monitor.escalations found, Goes config monitor escalation) :
    (monitor.settle (PowerSwitch.ofSettings tools config.actuator config.watchdog.dryRun) found).Leaves
      config.Admits := by
  cases found with
  | error error => exact (Act.leaves_one (.event rfl)).bind fun _ => Act.leaves_pure _
  | ok report =>
    refine (escalateAll_leaves limited _ go).bind fun _ => ?_
    exact (logAll_leaves (summary_silent _)).bind fun _ => Act.leaves_pure _

theorem pollCycle_leaves (limited : monitor.limits = config.limits) :
    (monitor.pollCycle (Probe.ping tools config.probe config.watchdog.hosts)
      (PowerSwitch.ofSettings tools config.actuator config.watchdog.dryRun)).Leaves config.Admits :=
  (Probe.ping_leaves _).bind fun _ => settle_leaves limited _ fun _ => goes_of_pinged

end Monitor

namespace Warden

variable {warden : Warden}

theorem tick_leaves (limited : warden.monitor.limits = config.limits) :
    (warden.tick (Program.equipment around config)).Leaves config.Admits :=
  (Monitor.pollCycle_leaves limited).bind fun _ => Act.leaves_pure _

theorem loop_leaves (interrupt : Option Nat) (bound : Nat) (limited : warden.monitor.limits = config.limits)
    (paced : warden.interval = config.watchdog.interval) :
    (loop (Program.equipment around config) interrupt bound warden).Leaves config.Admits := by
  induction bound generalizing warden with
  | zero => exact Act.leaves_pure _
  | succ bound ih =>
    refine (tick_leaves limited).bind fun world => ?_
    rw [tick_eq]
    have still : (warden.advanced (Program.equipment around config) 1 world).monitor.limits = config.limits :=
      (Monitor.polls_limits 1).trans limited
    simp only
    split
    · exact Act.leaves_pure _
    · split
      · have silent : ∀ event ∈ (warden.advanced (Program.equipment around config) 1 world).farewell,
            event.tellsSettings = false := by
          intro event present
          rcases List.mem_cons.mp present with rfl | dropped
          · rfl
          · obtain ⟨state, _, rfl⟩ := List.mem_map.mp dropped
            rfl
        exact (Monitor.logAll_leaves silent).bind fun _ => Act.leaves_pure _
      · refine (Act.leaves_one ?_).bind fun _ => ih still paced
        rw [advanced, paced]
        exact .wait

theorem run_leaves (interrupt : Option Nat) (patience : Nat) (limited : warden.monitor.limits = config.limits)
    (paced : warden.interval = config.watchdog.interval) :
    (warden.run (Program.equipment around config) interrupt patience).Leaves config.Admits := by
  refine (Act.leaves_one ?_).bind fun _ => loop_leaves interrupt _ limited paced
  rw [limited, paced]
  exact .started

end Warden

namespace Program

variable {line : CommandLine} {flags : WatchFlags} {args : List String} {world : ω}

theorem watch_leaves (once : Bool) : (watch around config once).Leaves config.Admits := by
  refine Session.detect_leaves.bind fun world => ?_
  split
  · exact Act.leaves_pure _
  · rename_i session _
    have work := @Warden.run_leaves ω around config (warden config session once) around.interrupt
      around.patience rfl rfl
    refine (Act.leaves_one (.event rfl)).bind fun _ => ?_
    split
    · rename_i dry
      refine (Act.leaves_one (.dryRun dry)).bind fun _ => ?_
      exact work.bind fun _ => Act.leaves_pure _
    · exact work.bind fun _ => Act.leaves_pure _

def work (around : Surroundings ω) (config : Config) (once : Bool) (session : Session) :
    Act ω (Option StopReason × Warden) :=
  let equipment : Equipment ω :=
    { probe := Probe.ping around.tools config.probe config.watchdog.hosts
      switch :=
        if config.watchdog.dryRun then PowerSwitch.rehearsed
        else PowerSwitch.remote around.tools config.actuator }
  let warden : Warden :=
    { monitor :=
        { limits := ⟨config.watchdog.failureLimit, config.watchdog.rebootLimit⟩, session := some session }
      interval := config.watchdog.interval
      budget := if once then some 1 else none }
  warden.run equipment around.interrupt around.patience

theorem watch_works (once : Bool)
    (attached : (around.tools (Session.invocation config.session) world).1.session? = some session) :
    let detected := around.tools (Session.invocation config.session) world
    let worked := work around config once session detected.2
    (watch around config once world).trace =
      .attempt (Session.invocation config.session) detected.1 :: .log (.connected session) ::
        ((if config.watchdog.dryRun then [.log .dryRun] else []) ++ worked.trace) := by
  obtain ⟨result, detected, named⟩ := Session.detect_eq around.tools config.session world
  rw [attached] at named
  cases named
  simp only [watch, bind, Act.andThen, detected]
  cases config.watchdog.dryRun with
  | true => exact congrArg (_ :: _ :: _ :: ·) (List.append_nil _)
  | false => exact congrArg (_ :: _ :: ·) (List.append_nil _)

theorem perform_merged (watching : line.command = .watch flags)
    (merged : Config.forWatch around.files line.config flags = .ok config) :
    perform around line = watch around config flags.once := by
  simp only [perform, watching, merged, configured]

section Running

variable (accepted : CommandLine.ofArgs args = .ok line) (watching : line.command = .watch flags)

include accepted watching

theorem run_unconfigured (unmerged : Config.forWatch around.files line.config flags = .error error) :
    (run around args world).calls = [] ∧ (run around args world).FailsWith error := by
  have performed : perform around line = fail error := by
    simp only [perform, watching, unmerged, configured]
  refine ⟨(run_fails accepted performed).calls, run_failsWith accepted ?_⟩
  rw [performed]
  rfl

variable (merged : Config.forWatch around.files line.config flags = .ok config)

include merged

theorem run_admitted : ∀ effect ∈ (run around args world).trace, config.Admits effect := by
  rw [run_trace accepted, perform_merged watching merged]
  intro effect present
  rcases List.mem_append.mp present with watched | complained
  · exact watch_leaves flags.once world effect watched
  · split at complained
    · cases complained
    · rw [List.mem_singleton.mp complained]
      exact .complaint

theorem run_detects : Session.invocation config.session ∈ (run around args world).calls := by
  have called : (run around args world).calls = (watch around config flags.once world).calls := by
    rw [← perform_merged watching merged]
    exact run_seen accepted rfl fun _ => rfl
  rw [called]
  cases attached : (around.tools (Session.invocation config.session) world).1.session? with
  | none =>
    obtain ⟨_, _, calls⟩ := @watch_unattached ω around config flags.once world attached
    rw [calls]
    exact List.mem_singleton_self _
  | some session =>
    obtain ⟨_, calls⟩ := @watch_attached ω around config flags.once world session attached
    rw [calls]
    exact List.mem_cons_self

theorem run_works
    (attached : (around.tools (Session.invocation config.session) world).1.session? = some session) :
    let detected := around.tools (Session.invocation config.session) world
    (run around args world).trace =
      .attempt (Session.invocation config.session) detected.1 :: .log (.connected session) ::
        ((if config.watchdog.dryRun then [.log .dryRun] else []) ++
          (work around config flags.once session detected.2).trace) := by
  intro detected
  obtain ⟨value, _⟩ := @watch_attached ω around config flags.once world session attached
  rw [run_trace accepted, perform_merged watching merged, watch_works flags.once attached, value,
    List.append_nil]

end Running

-- Whatever the files hold, whichever file is named, and whatever the flags say. A flag neither rescues a bad
-- file nor is it excused by a good one.
theorem watch_goes_by_merged_settings (accepted : CommandLine.ofArgs args = .ok line)
    (watching : line.command = .watch flags) :
    let done := run around args world
    let loaded := Config.loadOrDefault around.files line.config
    let merged := Config.forWatch around.files line.config flags
    (done.calls ≠ [] ↔
      (∃ file, loaded = .ok file) ∧ flags.interval ≠ some 0 ∧ flags.failureLimit ≠ some 0) ∧
    (∀ error, merged = .error error → done.calls = [] ∧ done.FailsWith error ∧
      (loaded = .error error ∨ (∃ file, loaded = .ok file) ∧
        (flags.failureLimit = some 0 ∧ error = .configInvalid .noFailureLimit ∨
          flags.failureLimit ≠ some 0 ∧ flags.interval = some 0 ∧ error = .configInvalid .noInterval))) ∧
    ∀ config, merged = .ok config →
      (∃ file, loaded = .ok file ∧ flags.Merged file config) ∧
      (∀ effect ∈ done.trace, config.Admits effect) ∧
      let detection := Session.invocation config.session
      let detected := around.tools detection world
      ∀ session, detected.1.session? = some session → done.trace =
        .attempt detection detected.1 :: .log (.connected session) ::
          ((if config.watchdog.dryRun then [.log .dryRun] else []) ++
            (work around config flags.once session detected.2).trace) := by
  intro done loaded merged
  refine ⟨?_, ?_, ?_⟩
  · rw [← WatchFlags.defect?_eq_none_iff]
    cases found : merged with
    | error error =>
      refine iff_of_false (· (run_unconfigured accepted watching found).1) ?_
      rintro ⟨⟨file, fine⟩, free⟩
      cases found.symm.trans (Config.forWatch_ok_iff.mpr ⟨file, fine, free, rfl⟩)
    | ok config =>
      obtain ⟨file, fine, free, _⟩ := Config.forWatch_ok_iff.mp found
      exact iff_of_true (List.ne_nil_of_mem (run_detects accepted watching found)) ⟨⟨file, fine⟩, free⟩
  · intro error found
    obtain ⟨calls, fails⟩ : done.calls = [] ∧ done.FailsWith error :=
      run_unconfigured accepted watching found
    refine ⟨calls, fails, ?_⟩
    refine (Config.forWatch_error_iff.mp found).imp_right (And.imp_right ?_)
    rintro ⟨defect, amiss, rfl⟩
    unfold WatchFlags.defect? at amiss
    split at amiss
    · rename_i unlimited
      cases amiss
      exact .inl ⟨unlimited, rfl⟩
    · rename_i limited
      obtain ⟨unpaced, same⟩ := Option.ite_none_right_eq_some.mp amiss
      cases same
      exact .inr ⟨limited, unpaced, rfl⟩
  · intro config found
    obtain ⟨file, fine, free, rfl⟩ := Config.forWatch_ok_iff.mp found
    exact ⟨⟨file, fine, Config.override_merged fine free⟩, run_admitted accepted watching found,
      fun session attached => run_works accepted watching found attached⟩

-- A file, whatever is asked for, and a session to attach to; the watch is broken off in its first wait.
def seated (settings : String) : Surroundings Unit :=
  { attachedOnly with
    files := ⟨fun _ => true, fun _ => .ok (Text.bytes settings), fun _ _ => ""⟩
    interrupt := some 1 }

theorem flags_over_seven_seconds :
    let around := seated "[watchdog]\ninterval = 7\nreboot_limit = 2\n"
    let flags : WatchFlags := { dryRun := true, failureLimit := some 4 }
    let done := run around ["watch", "--failure-limit=4", "--dry-run"] ()
    let refused := run around ["watch", "--interval=0"] ()
    let config : Config :=
      { watchdog := { interval := 7, failureLimit := 4, rebootLimit := 2, dryRun := true } }
    CommandLine.ofArgs ["watch", "--failure-limit=4", "--dry-run"] = .ok { command := .watch flags } ∧
      done.calls ≠ [] ∧ Config.forWatch around.files none flags = .ok config ∧
      (∀ effect ∈ done.trace, config.Admits effect) ∧
      .log (.started 7 ⟨4, 2⟩) ∈ done.trace ∧ refused.calls = [] ∧
      refused.FailsWith (.configInvalid .noInterval) := by
  intro around flags done refused config
  have accepted : CommandLine.ofArgs ["watch", "--failure-limit=4", "--dry-run"] =
      .ok { command := .watch flags } := by decide +kernel
  have alsoAccepted : CommandLine.ofArgs ["watch", "--interval=0"] =
      .ok { command := .watch { interval := some 0 } } := by decide +kernel
  have loaded : Config.loadOrDefault around.files none =
      .ok { watchdog := { interval := 7, rebootLimit := 2 } } := by decide +kernel
  have merged : Config.forWatch around.files none flags = .ok config := by decide +kernel
  have unmerged : Config.forWatch around.files none { interval := some 0 } =
      .error (.configInvalid .noInterval) := by decide +kernel
  have attached : (around.tools (Session.invocation config.session) ()).1.session? = some ⟨"p", "e", "m"⟩ := by
    decide +kernel
  obtain ⟨past, _, goes⟩ := @watch_goes_by_merged_settings _ around _ flags _ () accepted rfl
  obtain ⟨_, fails, _⟩ := @watch_goes_by_merged_settings _ around _ _ _ () alsoAccepted rfl
  obtain ⟨_, admitted, works⟩ := goes config merged
  obtain ⟨calls, failed, _⟩ := fails _ unmerged
  refine ⟨accepted, past.mpr ⟨⟨_, loaded⟩, by decide, by decide⟩, merged, admitted, ?_, calls, failed⟩
  simp only [done, works _ attached, List.mem_cons, List.mem_append]
  exact .inr (.inr (.inr List.mem_cons_self))

end Program

end TestbedWatchdog
