import TestbedWatchdog.Program
import TestbedWatchdog.Proofs.Config.Validation

namespace TestbedWatchdog

structure WatchFlags.Merged (flags : WatchFlags) (file config : Config) : Prop where
  valid : config.validate = .ok ()
  interval : config.watchdog.interval = flags.interval.getD file.watchdog.interval
  failureLimit : config.watchdog.failureLimit = flags.failureLimit.getD file.watchdog.failureLimit
  rebootLimit : config.watchdog.rebootLimit = flags.rebootLimit.getD file.watchdog.rebootLimit
  dryRun : config.watchdog.dryRun = (flags.dryRun || file.watchdog.dryRun)
  hosts : config.watchdog.hosts = file.watchdog.hosts
  probe : config.probe = file.probe
  actuator : config.actuator = file.actuator
  session : config.session = file.session

def WatchFlags.defect? (flags : WatchFlags) : Option Defect :=
  if flags.failureLimit = some 0 then some .noFailureLimit
  else if flags.interval = some 0 then some .noInterval
  else none

theorem WatchFlags.defect?_eq_none_iff {flags : WatchFlags} :
    flags.defect? = none ↔ flags.interval ≠ some 0 ∧ flags.failureLimit ≠ some 0 := by
  unfold defect?
  split
  · simp_all
  · split <;> simp_all

namespace Config

variable {files : Files} {path? : Option String} {flags : WatchFlags} {file config : Config} {error : Error}

theorem validate_of_load (loaded : load files path = .ok file) : file.validate = .ok () := by
  unfold load ofText at loaded
  split at loaded
  · cases loaded
  · split at loaded
    · cases loaded
    · split at loaded
      · cases loaded
      · split at loaded
        · cases loaded
        · split at loaded
          · cases loaded
          · rename_i valid
            cases loaded
            exact valid

theorem validate_of_loadOrDefault (loaded : loadOrDefault files path? = .ok file) :
    file.validate = .ok () := by
  cases path? with
  | some path => exact validate_of_load loaded
  | none =>
    simp only [loadOrDefault] at loaded
    split at loaded
    · exact validate_of_load loaded
    · cases loaded
      decide +kernel

theorem getD_eq_iff {given : Option α} {held value : α} (different : held ≠ value) :
    given.getD held = value ↔ given = some value := by
  cases given <;> simp [different]

theorem override_defect? (valid : file.validate = .ok ()) :
    (flags.override file).defect? = flags.defect? := by
  have sound := defect?_of_validate valid
  have limited := failureLimit_ne_zero_of_validate valid
  unfold defect? at sound
  rw [if_neg limited] at sound
  have paced : file.watchdog.interval ≠ 0 := fun unpaced => by simp [unpaced] at sound
  rw [if_neg paced] at sound
  -- the hosts and the programs are those of the file
  have merged : (flags.override file).defect? =
      if flags.failureLimit.getD file.watchdog.failureLimit = 0 then some .noFailureLimit
      else if flags.interval.getD file.watchdog.interval = 0 then some .noInterval
      else none := by
    rw [← sound]
    rfl
  simp only [merged, getD_eq_iff limited, getD_eq_iff paced, WatchFlags.defect?]

theorem forWatch_eq (loaded : loadOrDefault files path? = .ok file) :
    forWatch files path? flags =
      match flags.defect? with
      | some defect => .error (.configInvalid defect)
      | none => .ok (flags.override file) := by
  simp only [forWatch, loaded, validate, override_defect? (validate_of_loadOrDefault loaded)]
  cases flags.defect? <;> rfl

theorem forWatch_ok_iff : forWatch files path? flags = .ok config ↔
    ∃ file, loadOrDefault files path? = .ok file ∧ flags.defect? = none ∧ config = flags.override file := by
  cases loaded : loadOrDefault files path? with
  | error error => simp [forWatch, loaded]
  | ok file =>
    rw [forWatch_eq loaded]
    cases flags.defect? <;> simp [eq_comm]

theorem forWatch_error_iff : forWatch files path? flags = .error error ↔
    loadOrDefault files path? = .error error ∨
      (∃ file, loadOrDefault files path? = .ok file) ∧
        ∃ defect, flags.defect? = some defect ∧ error = .configInvalid defect := by
  cases loaded : loadOrDefault files path? with
  | error error => simp [forWatch, loaded]
  | ok file =>
    rw [forWatch_eq loaded]
    cases flags.defect? <;> simp [eq_comm]

theorem override_merged (loaded : loadOrDefault files path? = .ok file) (fine : flags.defect? = none) :
    flags.Merged file (flags.override file) where
  valid := by rw [validate, override_defect? (validate_of_loadOrDefault loaded), fine]
  interval := rfl
  failureLimit := rfl
  rebootLimit := rfl
  dryRun := Bool.or_comm _ _
  hosts := rfl
  probe := rfl
  actuator := rfl
  session := rfl

end Config

end TestbedWatchdog
