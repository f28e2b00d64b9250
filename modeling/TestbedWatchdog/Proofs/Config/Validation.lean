import Mathlib.Data.List.Nodup
import TestbedWatchdog.Config.Validation

namespace TestbedWatchdog.Config

variable {hosts seen : List String} {config : Config}

theorem hostDefect?_eq_none_iff : hostDefect? seen hosts = none ↔
    (∀ host ∈ hosts, isBlank host = false ∧ host ∉ seen) ∧ hosts.Nodup := by
  induction hosts generalizing seen with
  | nil => simp [hostDefect?]
  | cons host rest ih =>
    unfold hostDefect?
    by_cases blank : isBlank host = true
    · simp [blank]
    · by_cases again : host ∈ seen
      · simp [blank, again]
      · simp only [blank, Bool.false_eq_true, if_false, List.contains_iff_mem, again, ih,
          List.mem_cons, not_or, List.nodup_cons]
        constructor
        · intro sound
          obtain ⟨free, distinct⟩ := sound
          refine ⟨?_, fun later => (free host later).2.1 rfl, distinct⟩
          intro name listed
          rcases listed with rfl | later
          · exact ⟨Bool.not_eq_true _ ▸ blank, again⟩
          · exact ⟨(free name later).1, (free name later).2.2⟩
        · intro sound
          obtain ⟨free, once, distinct⟩ := sound
          refine ⟨fun name later => ?_, distinct⟩
          obtain ⟨ink, fresh⟩ := free name (.inr later)
          exact ⟨ink, fun same => once (same ▸ later), fresh⟩

theorem defect?_of_validate (valid : config.validate = .ok ()) : config.defect? = none := by
  unfold validate at valid
  cases found : config.defect? with
  | none => rfl
  | some defect => simp [found] at valid

theorem hostDefect?_of_validate (valid : config.validate = .ok ()) :
    hostDefect? [] config.watchdog.hosts = none := by
  have sound := defect?_of_validate valid
  unfold defect? at sound
  split at sound
  · cases sound
  · split at sound
    · cases sound
    · cases found : hostDefect? [] config.watchdog.hosts with
      | none => rfl
      | some defect => simp [found] at sound

theorem hosts_nodup_of_validate (valid : config.validate = .ok ()) : config.watchdog.hosts.Nodup :=
  (hostDefect?_eq_none_iff.mp (hostDefect?_of_validate valid)).2

theorem not_isBlank_of_validate (valid : config.validate = .ok ()) (listed : host ∈ config.watchdog.hosts) :
    isBlank host = false :=
  ((hostDefect?_eq_none_iff.mp (hostDefect?_of_validate valid)).1 host listed).1

theorem failureLimit_ne_zero_of_validate (valid : config.validate = .ok ()) :
    config.watchdog.failureLimit ≠ 0 := by
  intro none
  have sound := defect?_of_validate valid
  unfold defect? at sound
  rw [if_pos none] at sound
  cases sound

end TestbedWatchdog.Config
