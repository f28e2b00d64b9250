import TestbedWatchdog.Proofs.Streams
import TestbedWatchdog.Proofs.Text.ByteOrder
import TestbedWatchdog.Proofs.Watch
import TestbedWatchdog.Rehearsal.Toolbox

namespace TestbedWatchdog

namespace Listing

theorem paragraph_ne_empty (line : String) (lines : List String) : paragraph (line :: lines) ≠ "" := by
  intro empty
  have blank := congrArg String.toList empty
  simp [paragraph, String.join_cons] at blank

theorem session_ne_empty (json : Bool) (attached : Session) : session json attached ≠ "" := by
  cases json with
  | true => exact paragraph_ne_empty _ _
  | false => exact paragraph_ne_empty _ _

theorem probe_ne_empty (json : Bool) (report : ProbeReport) : probe json report ≠ "" := by
  cases json with
  | true => exact paragraph_ne_empty _ _
  | false => exact paragraph_ne_empty _ _

end Listing

inductive Command.SameListing : Command → Command → Prop where
  | session : SameListing (.session json) (.session json')
  | probe : SameListing (.probe json) (.probe json')

def Command.exits : Command → List Exit
  | .watch _ => [.code 0, .watching]
  | _ => [.code 0]

theorem Command.mem_exits {command : Command} (ends : ended ∈ command.exits) :
    ended = .code 0 ∨ ended = .watching ∧ ∃ flags, command = .watch flags := by
  cases command with
  | watch flags =>
    rcases List.mem_cons.mp ends with rfl | goes
    · exact .inl rfl
    · exact .inr ⟨List.mem_singleton.mp goes, flags, rfl⟩
  | probe json => exact .inl (List.mem_singleton.mp ends)
  | session json => exact .inl (List.mem_singleton.mp ends)
  | reboot host dryRun => exact .inl (List.mem_singleton.mp ends)
  | completion shell => exact .inl (List.mem_singleton.mp ends)

structure Done.FailsWith (done : Done ω Exit) (error : Error) : Prop where
  code : done.value = .code 1
  unprinted : done.printed = []
  complained : done.complaints = ["Error: " ++ error.message ++ "\n"]
  last : ∃ before, done.trace = before ++ [.stderr ("Error: " ++ error.message ++ "\n")]

namespace Program

variable {around : Surroundings ω} {config : Config} {line other : CommandLine} {args : List String}
  {world : ω} {ended : Exit}

def following (found : Act ω (Except Error α)) (next : α → Act ω Outcome) : Act ω Outcome := do
  match ← found with
  | .error error => fail error
  | .ok value => next value

def showing (found : Act ω (Except Error α)) (listing : α → String) : Act ω Outcome :=
  following found fun value => do
    Act.print (listing value)
    succeed

section Following

variable {found : Act ω (Except Error α)} {next : α → Act ω Outcome}

theorem following_failed (failed : (found world).value = .error error) :
    following found next world = ⟨.error error, (found world).world, (found world).trace⟩ := by
  simp only [following, bind, Act.andThen, failed]
  exact congrArg _ (List.append_nil _)

theorem following_found (got : (found world).value = .ok value) :
    let rest := next value (found world).world
    following found next world = ⟨rest.value, rest.world, (found world).trace ++ rest.trace⟩ := by
  simp only [following, bind, Act.andThen, got]

theorem following_found_seen (silent : found.Silent) (got : (found world).value = .ok value)
    {view : Effect → Option String} (streams : Effect.OfStreams view) :
    (following found next world).seen view = (next value (found world).world).seen view := by
  rw [following_found got, Done.seen, List.filterMap_append]
  exact congrArg (· ++ _) (silent view streams world)

end Following

theorem showSession_eq (json : Bool) : showSession around config json =
    showing (Session.detect around.tools config.session) (Listing.session json) := by
  refine congrArg (_ >>= ·) (funext fun detected => ?_)
  cases detected with
  | error error => rfl
  | ok session => rfl

theorem probeOnce_eq (json : Bool) : probeOnce around config json =
    showing (Probe.ping around.tools config.probe config.watchdog.hosts) (Listing.probe json) := by
  refine congrArg (_ >>= ·) (funext fun pinged => ?_)
  cases pinged with
  | error error => rfl
  | ok report => rfl

theorem reboot_eq (host : String) (dryRun : Bool) : reboot around config host dryRun =
    following
      (PowerSwitch.ofSettings around.tools config.actuator (dryRun || config.watchdog.dryRun) host)
      (fun _ => do
        if !(dryRun || config.watchdog.dryRun) then
          Act.print (Listing.powerCycled host)
        succeed) := by
  refine congrArg (_ >>= ·) (funext fun switched => ?_)
  cases switched with
  | error error => rfl
  | ok accord => rfl

theorem watch_silent (once : Bool) : (watch around config once).Silent := by
  refine (Session.detect_silent around.tools config.session).bind fun detected => ?_
  cases detected with
  | error error => exact Act.silent_pure _
  | ok session =>
    have guarded := @Warden.run_silent _ (equipment around config) (Probe.ping_silent _ _ _)
      (PowerSwitch.ofSettings_silent _ _ _) around.interrupt around.patience (warden config session once)
    refine (Act.silent_log _).bind fun _ => ?_
    simp only
    split
    · exact (Act.silent_log _).bind fun _ => guarded.bind fun _ => Act.silent_pure _
    · exact guarded.bind fun _ => Act.silent_pure _

structure Tidy (exits : List Exit) (command : Act ω Outcome) : Prop where
  uncomplaining : ∀ world, (command world).complaints = []
  unprinted : ∀ world error, (command world).value = .error error → (command world).printed = []
  finished : ∀ world ended, (command world).value = .ok ended → ended ∈ exits

variable {exits : List Exit}

theorem fail_tidy (error : Error) : Tidy exits (fail error : Act ω Outcome) := by
  refine ⟨fun _ => rfl, fun _ _ _ => rfl, fun world ended succeeded => ?_⟩
  cases succeeded

theorem succeed_tidy : Tidy [.code 0] (succeed : Act ω Outcome) := by
  refine ⟨fun _ => rfl, fun _ _ _ => rfl, fun world ended succeeded => ?_⟩
  cases succeeded
  exact List.mem_singleton_self _

theorem print_tidy (text : String) :
    Tidy [.code 0] (Act.print text >>= fun _ => succeed : Act ω Outcome) := by
  refine ⟨fun _ => rfl, fun world error failed => ?_, fun world ended succeeded => ?_⟩
  · cases failed
  · cases succeeded
    exact List.mem_singleton_self _

theorem following_tidy {found : Act ω (Except Error α)} {next : α → Act ω Outcome} (silent : found.Silent)
    (rest : ∀ value, Tidy exits (next value)) : Tidy exits (following found next) := by
  constructor
  · intro world
    cases got : (found world).value with
    | error error =>
      rw [following_failed got]
      exact silent.complaints
    | ok value =>
      refine (following_found_seen silent got Effect.complaint?_ofStreams).trans ?_
      exact (rest value).uncomplaining _
  · intro world error failed
    cases got : (found world).value with
    | error error =>
      rw [following_failed got]
      exact silent.printed
    | ok value =>
      rw [following_found got] at failed
      refine (following_found_seen silent got Effect.printed?_ofStreams).trans ?_
      exact (rest value).unprinted _ error failed
  · intro world ended succeeded
    cases got : (found world).value with
    | error error =>
      rw [following_failed got] at succeeded
      cases succeeded
    | ok value =>
      rw [following_found got] at succeeded
      exact (rest value).finished _ ended succeeded

theorem showing_tidy {found : Act ω (Except Error α)} (silent : found.Silent) (listing : α → String) :
    Tidy [.code 0] (showing found listing) :=
  following_tidy silent fun value => print_tidy (listing value)

theorem reboot_tidy (host : String) (dryRun : Bool) :
    Tidy [.code 0] (reboot around config host dryRun) := by
  rw [reboot_eq]
  refine following_tidy (PowerSwitch.ofSettings_silent _ _ _ _) fun _ => ?_
  cases !(dryRun || config.watchdog.dryRun) with
  | true => exact print_tidy _
  | false => exact succeed_tidy

theorem watch_tidy (once : Bool) : Tidy [.code 0, .watching] (watch around config once) := by
  refine ⟨fun _ => (watch_silent once).complaints, fun _ _ _ => (watch_silent once).printed, ?_⟩
  intro world ended succeeded
  cases attached : (around.tools (Session.invocation config.session) world).1.session? with
  | none =>
    obtain ⟨error, failed, _⟩ := @watch_unattached _ around config once world attached
    cases failed.symm.trans succeeded
  | some session =>
    obtain ⟨value, _⟩ := @watch_attached _ around config once world session attached
    cases value.symm.trans succeeded
    split
    · exact List.mem_cons_self
    · exact List.mem_cons_of_mem _ (List.mem_singleton_self _)

theorem configured_tidy (loaded : Except Error Config) {next : Config → Act ω Outcome}
    (rest : ∀ config, Tidy exits (next config)) : Tidy exits (configured loaded next) := by
  cases loaded with
  | error error => exact fail_tidy error
  | ok config => exact rest config

def Lists (command : Act ω Outcome) : Prop :=
  ∀ world, (command world).output ≠ "" ↔ (command world).value = .ok (.code 0)

def Alike (act act' : Act ω α) : Prop :=
  ∀ world, (act' world).value = (act world).value ∧
    ∀ {β : Type} (view : Effect → Option β), (∀ text, view (.stdout text) = none) →
      (act' world).seen view = (act world).seen view

section Showing

variable {found : Act ω (Except Error α)} {listing : α → String}

theorem showing_found (got : (found world).value = .ok value) :
    showing found listing world =
      ⟨.ok (.code 0), (found world).world, (found world).trace ++ [.stdout (listing value)]⟩ :=
  following_found got

theorem showing_lists (silent : found.Silent) (shown : ∀ value, listing value ≠ "") :
    Lists (showing found listing) := by
  intro world
  cases got : (found world).value with
  | error error =>
    rw [showing, following_failed got, Done.output]
    exact iff_of_false (· (congrArg String.join silent.printed)) nofun
  | ok value =>
    have printed : (showing found listing world).printed = [listing value] :=
      following_found_seen silent got Effect.printed?_ofStreams
    rw [Done.output, printed, showing_found got]
    refine iff_of_true ?_ rfl
    simpa [String.join_cons] using shown value

theorem showing_alike (found : Act ω (Except Error α)) (listing listing' : α → String) :
    Alike (showing found listing) (showing found listing') := by
  intro world
  cases got : (found world).value with
  | error error =>
    rw [showing, showing, following_failed got, following_failed got]
    exact ⟨rfl, fun _ _ => rfl⟩
  | ok value =>
    rw [showing_found got, showing_found got]
    refine ⟨rfl, fun view deaf => ?_⟩
    simp [Done.seen, deaf]

end Showing

theorem configured_lists (loaded : Except Error Config) {next : Config → Act ω Outcome}
    (rest : ∀ config, Lists (next config)) : Lists (configured loaded next) := by
  cases loaded with
  | error error => exact fun world => iff_of_false (· rfl) nofun
  | ok config => exact rest config

theorem configured_alike (loaded : Except Error Config) {next next' : Config → Act ω Outcome}
    (rest : ∀ config, Alike (next config) (next' config)) :
    Alike (configured loaded next) (configured loaded next') := by
  cases loaded with
  | error error => exact fun world => ⟨rfl, fun _ _ => rfl⟩
  | ok config => exact rest config

theorem perform_watch_silent (watching : line.command = .watch flags) : (perform around line).Silent := by
  simp only [perform, watching, configured]
  cases Config.forWatch around.files line.config flags with
  | error error => exact Act.silent_pure _
  | ok config => exact watch_silent flags.once

theorem perform_tidy (line : CommandLine) : Tidy line.command.exits (perform around line) := by
  unfold perform
  cases line.command with
  | completion shell => exact print_tidy _
  | session json =>
    refine configured_tidy _ fun config => ?_
    rw [showSession_eq]
    exact showing_tidy (Session.detect_silent _ _) _
  | probe json =>
    refine configured_tidy _ fun config => ?_
    rw [probeOnce_eq]
    exact showing_tidy (Probe.ping_silent _ _ _) _
  | reboot host dryRun => exact configured_tidy _ fun config => reboot_tidy host dryRun
  | watch flags => exact configured_tidy _ fun config => watch_tidy flags.once

theorem perform_lists (listing : line.command = .session json ∨ line.command = .probe json) :
    Lists (perform around line) := by
  unfold perform
  rcases listing with asked | asked
  · rw [asked]
    refine configured_lists _ fun config => ?_
    rw [showSession_eq]
    exact showing_lists (Session.detect_silent _ _) (Listing.session_ne_empty json)
  · rw [asked]
    refine configured_lists _ fun config => ?_
    rw [probeOnce_eq]
    exact showing_lists (Probe.ping_silent _ _ _) (Listing.probe_ne_empty json)

theorem perform_alike (file : other.config = line.config)
    (listing : line.command.SameListing other.command) :
    Alike (perform around line) (perform around other) := by
  unfold perform
  rw [file]
  generalize line.command = asked at listing ⊢
  generalize other.command = asked' at listing ⊢
  cases listing with
  | session =>
    refine configured_alike _ fun config => ?_
    rw [showSession_eq, showSession_eq]
    exact showing_alike _ _ _
  | probe =>
    refine configured_alike _ fun config => ?_
    rw [probeOnce_eq, probeOnce_eq]
    exact showing_alike _ _ _

section Running

variable (accepted : CommandLine.ofArgs args = .ok line)

include accepted

theorem run_trace : (run around args world).trace = (perform around line world).trace ++
    match (perform around line world).value with
    | .ok _ => []
    | .error error => [.stderr ("Error: " ++ error.message ++ "\n")] := by
  simp only [run, accepted, execute, bind, Act.andThen]
  cases (perform around line world).value with
  | ok exit => rfl
  | error error => rfl

theorem run_failsWith (failed : (perform around line world).value = .error error) :
    (run around args world).FailsWith error := by
  have trace := @run_trace _ around line args world accepted
  rw [failed] at trace
  refine ⟨?_, ?_, ?_, _, trace⟩
  · rw [run_value accepted rfl, failed]
    rfl
  · exact (run_seen accepted rfl fun _ => rfl).trans ((perform_tidy line).unprinted world error failed)
  · rw [Done.complaints, Done.seen, trace, List.filterMap_append]
    exact congrArg (· ++ _) ((perform_tidy line).uncomplaining world)

theorem run_unfailing (succeeded : (perform around line world).value = .ok ended) :
    (run around args world).value = ended ∧ (run around args world).complaints = [] := by
  have trace := @run_trace _ around line args world accepted
  rw [succeeded, List.append_nil] at trace
  constructor
  · rw [run_value accepted rfl, succeeded]
    rfl
  · rw [Done.complaints, Done.seen, trace]
    exact (perform_tidy line).uncomplaining world

theorem run_outcome :
    let done := run around args world
    (∃ error, (perform around line world).value = .error error ∧ done.FailsWith error) ∨
      done.complaints = [] ∧ done.value ∈ line.command.exits := by
  intro done
  cases performed : (perform around line world).value with
  | error error => exact .inl ⟨error, rfl, run_failsWith accepted performed⟩
  | ok ended =>
    obtain ⟨value, uncomplaining⟩ := run_unfailing accepted performed
    refine .inr ⟨uncomplaining, ?_⟩
    rw [value]
    exact (perform_tidy line).finished world ended performed

theorem run_output_iff (lists : Lists (perform around line)) :
    (run around args world).output ≠ "" ↔ (run around args world).value = .code 0 := by
  have printed : (run around args world).printed = (perform around line world).printed :=
    run_seen accepted rfl fun _ => rfl
  rw [Done.output, printed, run_value accepted rfl]
  refine (lists world).trans ?_
  cases (perform around line world).value with
  | error error => simp [exit]
  | ok ended => simp [exit]

theorem run_alike (accepted' : CommandLine.ofArgs args' = .ok other)
    (alike : Alike (perform around line) (perform around other)) :
    Alike (run around args) (run around args') := by
  intro world
  obtain ⟨value, seen⟩ := alike world
  constructor
  · rw [run_value accepted rfl, run_value accepted' rfl, value]
  · intro β view deaf
    simp only [Done.seen] at seen ⊢
    rw [run_trace accepted, run_trace accepted', value, List.filterMap_append, List.filterMap_append,
      seen view deaf]

end Running

-- For every set of files and all that the tools may reply. Two lines that ask for the same listing may
-- differ in how much of the log they want to see, too.
theorem prints_only_on_success (accepted : CommandLine.ofArgs args = .ok line) :
    let done := run around args world
    (done.value = .code 0 ∨ done.value = .code 1 ∨
      done.value = .watching ∧ ∃ flags, line.command = .watch flags) ∧
    (done.value = .code 1 →
      ∃ error, (perform around line world).value = .error error ∧ done.FailsWith error) ∧
    (done.value ≠ .code 1 → done.complaints = []) ∧
    (∀ json, line.command = .session json ∨ line.command = .probe json →
      (done.output ≠ "" ↔ done.value = .code 0)) ∧
    (∀ args' other, CommandLine.ofArgs args' = .ok other → other.config = line.config →
      line.command.SameListing other.command →
        let done' := run around args' world
        done'.value = done.value ∧ done'.calls = done.calls ∧ done'.complaints = done.complaints) ∧
    ∀ flags, line.command = .watch flags → done.printed = [] := by
  intro done
  have outcome := @run_outcome _ around line args world accepted
  refine ⟨?_, ?_, ?_, ?_, ?_, ?_⟩
  · rcases outcome with ⟨error, _, fails⟩ | ⟨_, ends⟩
    · exact .inr (.inl fails.code)
    · exact (Command.mem_exits ends).imp_right .inr
  · intro failed
    rcases outcome with fails | ⟨_, ends⟩
    · exact fails
    · rcases Command.mem_exits ends with succeeds | ⟨goes, _⟩
      · cases succeeds.symm.trans failed
      · cases goes.symm.trans failed
  · intro unfailed
    rcases outcome with ⟨error, _, fails⟩ | ⟨uncomplaining, _⟩
    · exact absurd fails.code unfailed
    · exact uncomplaining
  · intro json listing
    exact run_output_iff accepted (perform_lists listing)
  · intro args' other accepted' file listing done'
    obtain ⟨value, seen⟩ := run_alike accepted accepted' (perform_alike file listing) world
    exact ⟨value, seen Effect.call? fun _ => rfl, seen Effect.complaint? fun _ => rfl⟩
  · intro flags watching
    exact (run_seen accepted rfl fun _ => rfl).trans (perform_watch_silent watching).printed

-- No files. The session tool names a session; the ping tool has all its status lines on the wrong stream.
def attachedOnly : Surroundings Unit :=
  { files := ⟨fun _ => false, fun _ => .error .notFound, fun _ _ => ""⟩
    tools := (Rehearsal.Toolbox.mk
      [⟨"xdc", none, .ended (.exited 0) (Text.bytes "Materialization: p e m\n") []⟩,
        ⟨"ansible", none, .ended (.exited 0) [] (Text.bytes "n1 | SUCCESS => x\n")⟩]).tools }

theorem listed_or_named :
    let shown := run attachedOnly ["session"] ()
    let shown' := run attachedOnly ["session", "--json"] ()
    let failed := run attachedOnly ["probe", "--json"] ()
    shown.value = .code 0 ∧ shown.output ≠ "" ∧ shown.complaints = [] ∧
      shown'.value = .code 0 ∧ shown'.calls = shown.calls ∧
      failed.value = .code 1 ∧ failed.output = "" ∧
      ∃ error, (perform attachedOnly { command := .probe true } ()).value = .error error ∧
        failed.FailsWith error := by
  intro shown shown' failed
  have text : CommandLine.ofArgs ["session"] = .ok { command := .session false } := by decide +kernel
  have json : CommandLine.ofArgs ["session", "--json"] = .ok { command := .session true } := by
    decide +kernel
  have ping : CommandLine.ofArgs ["probe", "--json"] = .ok { command := .probe true } := by decide +kernel
  have zero : shown.value = .code 0 := by decide +kernel
  have one : failed.value = .code 1 := by decide +kernel
  obtain ⟨_, _, uncomplaining, listed, modes, _⟩ :=
    @prints_only_on_success _ attachedOnly _ ["session"] () text
  obtain ⟨_, fails, _, unlisted, _, _⟩ :=
    @prints_only_on_success _ attachedOnly _ ["probe", "--json"] () ping
  obtain ⟨value, calls, _⟩ := modes ["session", "--json"] _ json rfl .session
  have nothing : failed.output = "" := by
    by_contra something
    cases one.symm.trans ((unlisted true (.inr rfl)).mp something)
  refine ⟨zero, (listed false (.inl rfl)).mpr zero, uncomplaining ?_, value.trans zero, calls, one, nothing,
    fails one⟩
  rw [zero]
  nofun

end Program

end TestbedWatchdog
