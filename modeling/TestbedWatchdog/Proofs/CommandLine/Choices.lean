import Mathlib.Data.List.Nodup
import TestbedWatchdog.Proofs.CommandLine.Spelling

namespace TestbedWatchdog

def Choice.isGlobal : Choice → Bool
  | config _ | verbose => true
  | _ => false

namespace Given

variable {given outer : Given} {one two : Choice}

def having (given : Given) : Choice → Given
  | .config path => { given with config := some path }
  | .verbose => { given with verbose := true }
  | .once => { given with once := true }
  | .dryRun => { given with dryRun := true }
  | .json => { given with json := true }
  | .interval seconds => { given with interval := some seconds }
  | .failureLimit limit => { given with failureLimit := some limit }
  | .rebootLimit limit => { given with rebootLimit := some limit }

def vacant (given : Given) : Choice → Bool
  | .config _ => given.config.isNone
  | .verbose => !given.verbose
  | .once => !given.once
  | .dryRun => !given.dryRun
  | .json => !given.json
  | .interval _ => given.interval.isNone
  | .failureLimit _ => given.failureLimit.isNone
  | .rebootLimit _ => given.rebootLimit.isNone

theorem having_comm (different : one.meaning ≠ two.meaning) :
    (given.having one).having two = (given.having two).having one := by
  cases one <;> cases two <;> first | rfl | exact absurd rfl different

theorem vacant_having (different : one.meaning ≠ two.meaning) :
    (given.having one).vacant two = given.vacant two := by
  cases one <;> cases two <;> first | rfl | exact absurd rfl different

theorem foldl_having_perm {choices other : List Choice} (distinct : (choices.map Choice.meaning).Nodup)
    (same : choices.Perm other) (given : Given) : choices.foldl having given = other.foldl having given := by
  refine same.foldl_eq' (fun one first two second given => ?_) given
  by_cases equal : one.meaning = two.meaning
  · rw [List.inj_on_of_nodup_map distinct first second equal]
  · exact having_comm equal

def atop (given outer : Given) : Given :=
  { given with config := given.config <|> outer.config, verbose := outer.verbose || given.verbose }

theorem having_atop (given outer : Given) (choice : Choice) :
    (given.atop outer).having choice = (given.having choice).atop outer := by
  cases choice with
  | verbose => simp [atop, having]
  | _ => rfl

def addressing (given : Given) (host? : Option String) : Given := { given with host := host? }

theorem command_atop (given outer : Given) (name : CommandName) :
    (given.atop outer).command name = given.command name := by
  cases name <;> rfl

def IsOuter (given : Given) : Prop := ({} : Given).atop given = given

theorem isOuter_having {choice : Choice} (outer : given.IsOuter) (global : choice.isGlobal = true) :
    (given.having choice).IsOuter := by
  calc ({} : Given).atop (given.having choice) = (({} : Given).atop given).having choice := by
        cases choice <;> first | rfl | cases global
    _ = given.having choice := by rw [outer]

theorem isOuter_foldl_having {choices : List Choice} (outer : given.IsOuter)
    (global : ∀ choice ∈ choices, choice.isGlobal = true) : (choices.foldl having given).IsOuter := by
  induction choices generalizing given with
  | nil => exact outer
  | cons first later ih =>
    obtain ⟨one, rest⟩ := List.forall_mem_cons.mp global
    exact ih (isOuter_having outer one) rest

theorem foldl_having_append {before behind : List Choice}
    (global : ∀ choice ∈ before, choice.isGlobal = true) : (before ++ behind).foldl having {} =
      (behind.foldl having {}).atop (before.foldl having {}) := by
  have outer : (before.foldl having {}).IsOuter := isOuter_foldl_having rfl global
  rw [List.foldl_append]
  conv_lhs => rw [← outer]
  exact List.foldl_hom (atop · _) fun given choice => having_atop given _ choice

end Given

namespace Command

def name : Command → CommandName
  | watch _ => .watch
  | probe _ => .probe
  | session _ => .session
  | reboot _ _ => .reboot
  | completion _ => .completion

def choices : Command → List Choice
  | watch flags =>
    (if flags.once then [.once] else []) ++ (if flags.dryRun then [.dryRun] else []) ++
      (flags.interval.map .interval).toList ++ (flags.failureLimit.map .failureLimit).toList ++
      (flags.rebootLimit.map .rebootLimit).toList
  | probe json | session json => if json then [.json] else []
  | reboot _ dryRun => if dryRun then [.dryRun] else []
  | completion _ => []

def host? : Command → Option String
  | reboot host _ => some host
  | _ => none

theorem given_choices (command : Command) (complete : ∀ shell, command ≠ .completion shell) :
    let given := command.choices.foldl Given.having {}
    given.config = none ∧ given.verbose = false ∧
      (given.addressing command.host?).command command.name = .ok command := by
  cases command with
  | watch flags =>
    obtain ⟨once, dryRun, interval, failureLimit, rebootLimit⟩ := flags
    cases once <;> cases dryRun <;> cases interval <;> cases failureLimit <;> cases rebootLimit <;>
      exact ⟨rfl, rfl, rfl⟩
  | probe json => cases json <;> exact ⟨rfl, rfl, rfl⟩
  | session json => cases json <;> exact ⟨rfl, rfl, rfl⟩
  | reboot host dryRun => cases dryRun <;> exact ⟨rfl, rfl, rfl⟩
  | completion shell => exact absurd rfl (complete shell)

end Command

section Meanings

theorem meaning_ite (wanted : Bool) (choice : Choice) :
    ((if wanted then [choice] else []).map Choice.meaning).Sublist [choice.meaning] := by
  cases wanted with
  | true => exact List.Sublist.refl _
  | false => exact List.nil_sublist _

theorem meaning_toList (makes : α → Choice) (meant : Meaning) (same : ∀ value, (makes value).meaning = meant)
    (found : Option α) : ((found.map makes).toList.map Choice.meaning).Sublist [meant] := by
  cases found with
  | none => exact List.nil_sublist _
  | some value => exact same value ▸ List.Sublist.refl _

theorem Command.choices_meanings (command : Command) :
    (command.choices.map Choice.meaning).Sublist ((Meaning.own (some command.name)).map (·.2)) := by
  cases command with
  | watch flags =>
    simp only [choices, List.map_append]
    have interval := meaning_toList Choice.interval (.setting .interval) (fun _ => rfl) flags.interval
    have failureLimit :=
      meaning_toList Choice.failureLimit (.setting .failureLimit) (fun _ => rfl) flags.failureLimit
    have rebootLimit :=
      meaning_toList Choice.rebootLimit (.setting .rebootLimit) (fun _ => rfl) flags.rebootLimit
    exact ((((meaning_ite flags.once .once).append (meaning_ite flags.dryRun .dryRun)).append
      interval).append failureLimit).append rebootLimit
  | probe json => exact meaning_ite json .json
  | session json => exact meaning_ite json .json
  | reboot host dryRun => exact meaning_ite dryRun .dryRun
  | completion shell => exact List.nil_sublist _

end Meanings

namespace CommandLine

variable {line : CommandLine}

def globalChoices (line : CommandLine) : List Choice :=
  (line.config.map .config).toList ++ if line.verbose then [.verbose] else []

def choices (line : CommandLine) : List Choice := line.globalChoices ++ line.command.choices

theorem globalChoices_global (line : CommandLine) :
    ∀ choice ∈ line.globalChoices, choice.isGlobal = true := by
  intro choice present
  rcases List.mem_append.mp present with first | second
  · obtain ⟨path, _, rfl⟩ := Option.map_eq_some_iff.mp (Option.mem_toList.mp first)
    rfl
  · rw [List.mem_ite_nil_right] at second
    rw [List.mem_singleton.mp second.2]
    rfl

theorem choices_distinct (line : CommandLine) : (line.choices.map Choice.meaning).Nodup := by
  have config := meaning_toList Choice.config (.setting .config) (fun _ => rfl) line.config
  have verbose := meaning_ite line.verbose .verbose
  have distinct : ([Meaning.setting .config] ++ [Meaning.switch .verbose] ++
      (Meaning.own (some line.command.name)).map (·.2)).Nodup := by
    cases line.command.name <;> decide
  refine distinct.sublist ?_
  rw [choices, globalChoices, List.map_append, List.map_append]
  exact (config.append verbose).append line.command.choices_meanings

theorem given_globalChoices (line : CommandLine) : line.globalChoices.foldl Given.having {} =
    { config := line.config, verbose := line.verbose } := by
  unfold globalChoices
  cases line.config <;> cases line.verbose <;> rfl

theorem given_choices (complete : ∀ shell, line.command ≠ .completion shell) :
    let given := line.choices.foldl Given.having {}
    given.config = line.config ∧ given.verbose = line.verbose ∧
      (given.addressing line.command.host?).command line.command.name = .ok line.command := by
  intro given
  obtain ⟨noConfig, quiet, command⟩ := line.command.given_choices complete
  have parts : given = _ := Given.foldl_having_append line.globalChoices_global
  rw [given_globalChoices] at parts
  rw [parts]
  refine ⟨?_, ?_, ?_⟩
  · simp [Given.atop, noConfig]
  · simp [Given.atop, quiet]
  · rw [← command]
    exact Given.command_atop (Given.addressing _ _) _ _

end CommandLine

end TestbedWatchdog
