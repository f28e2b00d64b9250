import TestbedWatchdog.Proofs.Config.Validation

namespace TestbedWatchdog

namespace Defect

variable {host : String} {one two : Defect}

def fixed : List Defect :=
  [.noFailureLimit, .noInterval, .blankHost, .blankProgram .watchdog, .blankProgram .probe,
    .blankProgram .actuator, .blankProgram .session]

theorem fixed_or_duplicate (defect : Defect) : defect ∈ fixed ∨ ∃ host, defect = .duplicateHost host := by
  cases defect with
  | duplicateHost host => exact .inr ⟨host, rfl⟩
  | blankProgram owner => cases owner <;> exact .inl (by decide)
  | noFailureLimit | noInterval | blankHost => exact .inl (by decide)

theorem message_duplicate_ne (member : one ∈ fixed) : (duplicateHost host).message ≠ one.message := by
  have others : ∀ defect ∈ fixed, defect.message.toList.head? ≠ some 'D' := by decide +kernel
  have opening : "Duplicate host in watchdog.hosts: ".toList.head? = some 'D' := by decide +kernel
  have whole : (duplicateHost host).message.toList =
      "Duplicate host in watchdog.hosts: ".toList ++ host.toList := String.toList_append
  intro same
  apply others one member
  rw [← same, whole, List.head?_append, opening]
  rfl

theorem message_injective (same : one.message = two.message) : one = two := by
  have distinct : ∀ one ∈ fixed, ∀ two ∈ fixed, one.message = two.message → one = two := by decide +kernel
  rcases fixed_or_duplicate one with first | ⟨host, rfl⟩
  · rcases fixed_or_duplicate two with second | ⟨host, rfl⟩
    · exact distinct one first two second same
    · exact absurd same.symm (message_duplicate_ne first)
  · rcases fixed_or_duplicate two with second | ⟨other, rfl⟩
    · exact absurd same (message_duplicate_ne second)
    · exact congrArg _ ((String.append_right_inj _).mp same)

end Defect

namespace Config

def IsInked (name : String) : Prop := ∃ c ∈ name.toList, Text.isBlank c = false

theorem isBlank_iff : isBlank name = true ↔ ¬ IsInked name := by
  simp [isBlank, Text.allBlank, IsInked]

structure WellFormed (config : Config) : Prop where
  failureLimit : 1 ≤ config.watchdog.failureLimit
  interval : 1 ≤ config.watchdog.interval
  hosts : ∀ host ∈ config.watchdog.hosts, IsInked host
  distinct : config.watchdog.hosts.Nodup
  probe : IsInked config.probe.program
  actuator : IsInked config.actuator.program
  session : IsInked config.session.program

inductive Place where
  | failureLimit
  | interval
  | host (index : Nat)
  | program (owner : Section)

def places (config : Config) : List Place :=
  [.failureLimit, .interval] ++ (List.range config.watchdog.hosts.length).map .host ++
    [.program .probe, .program .actuator, .program .session]

def program? (config : Config) : Section → Option String
  | .watchdog => none
  | .probe => some config.probe.program
  | .actuator => some config.actuator.program
  | .session => some config.session.program

-- What is amiss at a place. A blank name that stands in the list again is amiss in both ways.
inductive Amiss (config : Config) : Place → Defect → Prop
  | failureLimit (none : config.watchdog.failureLimit = 0) : Amiss config .failureLimit .noFailureLimit
  | interval (none : config.watchdog.interval = 0) : Amiss config .interval .noInterval
  | blank (listed : config.watchdog.hosts[index]? = some host) (blank : ¬ IsInked host) :
      Amiss config (.host index) .blankHost
  | repeated (listed : config.watchdog.hosts[index]? = some host) (before : earlier < index)
      (same : config.watchdog.hosts[earlier]? = some host) :
      Amiss config (.host index) (.duplicateHost host)
  | program (named : config.program? owner = some program) (blank : ¬ IsInked program) :
      Amiss config (.program owner) (.blankProgram owner)

def FirstDefect (config : Config) (defect : Defect) : Prop :=
  ∃ before place after, config.places = before ++ place :: after ∧ config.Amiss place defect ∧
    ∀ earlier ∈ before, ∀ other, ¬ config.Amiss earlier other

variable {config : Config} {hosts rest seen : List String} {host : String} {defect : Defect} {place : Place}

def hostDefectAt? (hosts : List String) (index : Nat) : Option Defect :=
  match hosts[index]? with
  | none => none
  | some host =>
    if isBlank host then some .blankHost
    else if host ∈ hosts.take index then some (.duplicateHost host)
    else none

def defectAt? (config : Config) : Place → Option Defect
  | .failureLimit => if config.watchdog.failureLimit = 0 then some .noFailureLimit else none
  | .interval => if config.watchdog.interval = 0 then some .noInterval else none
  | .host index => hostDefectAt? config.watchdog.hosts index
  | .program owner => (config.program? owner).bind (programDefect? owner)

-- The hosts that have been passed are the front of the list.
theorem hostDefect?_eq_findSome? (passed : ∀ host, host ∈ seen ↔ host ∈ hosts) :
    hostDefect? seen rest =
      (List.range' hosts.length rest.length).findSome? (hostDefectAt? (hosts ++ rest)) := by
  induction rest generalizing hosts seen with
  | nil => rfl
  | cons host rest ih =>
    have here : hostDefectAt? (hosts ++ host :: rest) hosts.length =
        if isBlank host then some .blankHost
        else if host ∈ hosts then some (.duplicateHost host) else none := by
      simp [hostDefectAt?]
    have later := @ih (hosts ++ [host]) (host :: seen) (by simp [passed, or_comm])
    rw [List.append_assoc, List.singleton_append, List.length_append, List.length_singleton] at later
    rw [List.length_cons, List.range'_succ, List.findSome?_cons, here, ← later, hostDefect?]
    simp only [List.contains_iff_mem, passed]
    split
    · rfl
    · split
      · rfl
      · rfl

theorem programs_findSome? (config : Config) :
    [Place.program .probe, .program .actuator, .program .session].findSome? config.defectAt? =
      (programDefect? .probe config.probe.program <|> programDefect? .actuator config.actuator.program
        <|> programDefect? .session config.session.program) := by
  simp only [List.findSome?_cons, List.findSome?_nil, defectAt?, program?, Option.bind_some]
  cases programDefect? .probe config.probe.program with
  | some defect => rfl
  | none =>
    cases programDefect? .actuator config.actuator.program with
    | some defect => rfl
    | none => cases programDefect? .session config.session.program <;> rfl

theorem defect?_eq_findSome? (config : Config) :
    config.defect? = config.places.findSome? config.defectAt? := by
  have hosts : ((List.range config.watchdog.hosts.length).map .host).findSome? config.defectAt? =
      hostDefect? [] config.watchdog.hosts := by
    have whole := @hostDefect?_eq_findSome? [] config.watchdog.hosts [] fun _ => Iff.rfl
    rw [whole, List.findSome?_map, List.range_eq_range']
    rfl
  rw [places, List.findSome?_append, List.findSome?_append, hosts, programs_findSome?]
  unfold defect?
  by_cases unlimited : config.watchdog.failureLimit = 0
  · simp [defectAt?, unlimited]
  · by_cases unpaced : config.watchdog.interval = 0
    · simp [defectAt?, unlimited, unpaced]
    · simp [defectAt?, unlimited, unpaced]

theorem amiss_of_defectAt? (found : config.defectAt? place = some defect) : config.Amiss place defect := by
  cases place with
  | failureLimit =>
    obtain ⟨none, same⟩ := Option.ite_none_right_eq_some.mp found
    cases same
    exact .failureLimit none
  | interval =>
    obtain ⟨none, same⟩ := Option.ite_none_right_eq_some.mp found
    cases same
    exact .interval none
  | host index =>
    simp only [defectAt?, hostDefectAt?] at found
    split at found
    · cases found
    · rename_i host listed
      split at found
      · rename_i blank
        cases found
        exact .blank listed (isBlank_iff.mp blank)
      · split at found
        · rename_i again
          cases found
          obtain ⟨earlier, before, same⟩ := List.mem_take_iff_getElem.mp again
          exact .repeated listed (by omega) (List.getElem?_eq_some_iff.mpr ⟨by omega, same⟩)
        · cases found
  | program owner =>
    obtain ⟨program, named, faulty⟩ := Option.bind_eq_some_iff.mp found
    obtain ⟨blank, same⟩ := Option.ite_none_right_eq_some.mp faulty
    cases same
    exact .program named (isBlank_iff.mp blank)

theorem defectAt?_of_amiss (amiss : config.Amiss place defect) : config.defectAt? place ≠ none := by
  cases amiss with
  | failureLimit none => simp [defectAt?, none]
  | interval none => simp [defectAt?, none]
  | blank listed blank => simp [defectAt?, hostDefectAt?, listed, isBlank_iff.mpr blank]
  | @repeated index host earlier listed before same =>
    have again : host ∈ config.watchdog.hosts.take index := by
      obtain ⟨inside, same⟩ := List.getElem?_eq_some_iff.mp same
      exact List.mem_take_iff_getElem.mpr ⟨earlier, by omega, same⟩
    simp only [defectAt?, hostDefectAt?, listed, again, if_true]
    split <;> simp
  | program named blank => simp [defectAt?, named, programDefect?, isBlank_iff.mpr blank]

theorem defectAt?_eq_none_iff : config.defectAt? place = none ↔ ∀ other, ¬ config.Amiss place other := by
  constructor
  · intro none other amiss
    exact defectAt?_of_amiss amiss none
  · intro fine
    exact Option.eq_none_iff_forall_ne_some.mpr fun other found => fine other (amiss_of_defectAt? found)

theorem places_pairwise (config : Config) : config.places.Pairwise fun one two =>
    ∀ first second, one = .host first → two = .host second → first < second := by
  have hosts : (List.range config.watchdog.hosts.length).Pairwise (· < ·) := List.pairwise_lt_range
  simp [places, List.pairwise_append, List.pairwise_map, hosts]

theorem mem_before {before after : List Place} {index earlier : Nat}
    (cut : config.places = before ++ .host index :: after) (under : earlier < index)
    (listed : config.watchdog.hosts[earlier]? = some host) : .host earlier ∈ before := by
  obtain ⟨inside, _⟩ := List.getElem?_eq_some_iff.mp listed
  have present : .host earlier ∈ config.places := by simp [places, inside]
  have order := places_pairwise config
  rw [cut, List.pairwise_append, List.pairwise_cons] at order
  rw [cut, List.mem_append, List.mem_cons] at present
  rcases present with passed | same | later
  · exact passed
  · cases same
    exact absurd under (Nat.lt_irrefl _)
  · exact absurd under (Nat.lt_asymm (order.2.1.1 _ later _ _ rfl rfl))

-- A name that is blank and stands in the list again is blank where it has come first.
theorem amiss_unique {before after : List Place} {other : Defect}
    (cut : config.places = before ++ place :: after)
    (fine : ∀ earlier ∈ before, ∀ other, ¬ config.Amiss earlier other)
    (one : config.Amiss place defect) (two : config.Amiss place other) : defect = other := by
  cases one with
  | failureLimit none => cases two; rfl
  | interval none => cases two; rfl
  | program named blank => cases two; rfl
  | blank listed blank =>
    cases two with
    | blank => rfl
    | repeated again under same =>
      cases listed.symm.trans again
      exact absurd (.blank same blank) (fine _ (mem_before cut under same) _)
  | repeated listed under same =>
    cases two with
    | blank again blank =>
      cases listed.symm.trans again
      exact absurd (.blank same blank) (fine _ (mem_before cut under same) _)
    | repeated again =>
      cases listed.symm.trans again
      rfl

theorem defect?_eq_some_iff : config.defect? = some defect ↔ config.FirstDefect defect := by
  rw [defect?_eq_findSome?, List.findSome?_eq_some_iff]
  simp only [FirstDefect, defectAt?_eq_none_iff]
  constructor
  · rintro ⟨before, place, after, cut, found, fine⟩
    exact ⟨before, place, after, cut, amiss_of_defectAt? found, fine⟩
  · rintro ⟨before, place, after, cut, amiss, fine⟩
    obtain ⟨found, here⟩ := Option.ne_none_iff_exists'.mp (defectAt?_of_amiss amiss)
    have same := amiss_unique cut fine amiss (amiss_of_defectAt? here)
    exact ⟨before, place, after, cut, same ▸ here, fine⟩

theorem programDefect?_eq_none_iff : programDefect? owner program = none ↔ IsInked program := by
  simp [programDefect?, isBlank_iff]

theorem hostDefect?_nil_eq_none_iff :
    hostDefect? [] hosts = none ↔ (∀ host ∈ hosts, IsInked host) ∧ hosts.Nodup := by
  rw [hostDefect?_eq_none_iff]
  simp [← Bool.not_eq_true, isBlank_iff]

theorem defect?_eq_none_iff : config.defect? = none ↔ config.WellFormed := by
  have positive32 (n : UInt32) : 1 ≤ n ↔ n ≠ 0 := by
    rw [UInt32.le_iff_toNat_le, ne_eq, ← UInt32.toNat_inj]
    exact Nat.one_le_iff_ne_zero
  have positive64 (n : UInt64) : 1 ≤ n ↔ n ≠ 0 := by
    rw [UInt64.le_iff_toNat_le, ne_eq, ← UInt64.toNat_inj]
    exact Nat.one_le_iff_ne_zero
  have none_of_each : config.defect? = none ↔ config.watchdog.failureLimit ≠ 0 ∧
      config.watchdog.interval ≠ 0 ∧ hostDefect? [] config.watchdog.hosts = none ∧
        programDefect? .probe config.probe.program = none ∧
          programDefect? .actuator config.actuator.program = none ∧
            programDefect? .session config.session.program = none := by
    unfold defect?
    by_cases unlimited : config.watchdog.failureLimit = 0
    · simp [unlimited]
    · by_cases unpaced : config.watchdog.interval = 0
      · simp [unlimited, unpaced]
      · simp [unlimited, unpaced]
  rw [none_of_each, hostDefect?_nil_eq_none_iff]
  simp only [programDefect?_eq_none_iff]
  constructor
  · rintro ⟨limited, paced, ⟨inked, distinct⟩, probe, actuator, session⟩
    exact ⟨(positive32 _).mpr limited, (positive64 _).mpr paced, inked, distinct, probe, actuator, session⟩
  · intro sound
    exact ⟨(positive32 _).mp sound.failureLimit, (positive64 _).mp sound.interval,
      ⟨sound.hosts, sound.distinct⟩, sound.probe, sound.actuator, sound.session⟩

theorem hostDefect?_perm (reordered : rest.Perm hosts) :
    hostDefect? [] rest = none ↔ hostDefect? [] hosts = none := by
  simp only [hostDefect?_nil_eq_none_iff, reordered.mem_iff, reordered.nodup_iff]

theorem validate_ok_iff : config.validate = .ok () ↔ config.WellFormed := by
  rw [← defect?_eq_none_iff, validate]
  cases config.defect? <;> simp

theorem validate_error_iff : config.validate = .error error ↔
    ∃ defect, error = .configInvalid defect ∧ config.FirstDefect defect := by
  simp only [← defect?_eq_some_iff, validate]
  cases config.defect? <;> simp [eq_comm]

theorem validate_reports_first_defect (config : Config) :
    (config.validate = .ok () ↔ config.WellFormed) ∧
    (∀ error, config.validate = .error error ↔
      ∃ defect, error = .configInvalid defect ∧ config.FirstDefect defect) ∧
    (∀ one two, (Error.configInvalid one).message = (Error.configInvalid two).message → one = two) ∧
    ∀ hosts, hosts.Perm config.watchdog.hosts →
      let reordered := { config with watchdog := { config.watchdog with hosts := hosts } }
      (hostDefect? [] hosts = none ↔ hostDefect? [] config.watchdog.hosts = none) ∧
        (reordered.validate = .ok () ↔ config.validate = .ok ()) := by
  refine ⟨validate_ok_iff, fun error => validate_error_iff, fun one two same => ?_, fun hosts perm => ?_⟩
  · exact Defect.message_injective ((String.append_right_inj _).mp same)
  · refine ⟨hostDefect?_perm perm, validate_ok_iff.trans (.trans ?_ validate_ok_iff.symm)⟩
    constructor
    · intro sound
      exact { sound with
        hosts := fun host listed => sound.hosts host (perm.mem_iff.mpr listed)
        distinct := perm.nodup_iff.mp sound.distinct }
    · intro sound
      exact { sound with
        hosts := fun host listed => sound.hosts host (perm.mem_iff.mp listed)
        distinct := perm.nodup_iff.mpr sound.distinct }

-- A name listed twice, behind it a name of one wide blank, and a program without a name.
def thriceFaulty : Config :=
  { watchdog := { hosts := ["n1", "n2", "n1", "\u3000"] }, probe := { program := "\t" } }

theorem repeated_host_reported_first :
    let blankFirst := { thriceFaulty with watchdog := { hosts := ["\u3000", "n1", "n1", "n2"] } }
    thriceFaulty.FirstDefect (.duplicateHost "n1") ∧ ¬ thriceFaulty.WellFormed ∧
      blankFirst.watchdog.hosts.Perm thriceFaulty.watchdog.hosts ∧
      blankFirst.validate = .error (.configInvalid .blankHost) ∧ blankFirst.validate ≠ .ok () := by
  intro blankFirst
  obtain ⟨passes, refused, _, reordered⟩ := validate_reports_first_defect thriceFaulty
  have repeated : thriceFaulty.validate = .error (.configInvalid (.duplicateHost "n1")) := by decide +kernel
  have blank : blankFirst.validate = .error (.configInvalid .blankHost) := by decide +kernel
  have failed : thriceFaulty.validate ≠ .ok () := by
    rw [repeated]
    nofun
  have perm : blankFirst.watchdog.hosts.Perm thriceFaulty.watchdog.hosts := by decide
  obtain ⟨defect, same, first⟩ := (refused _).mp repeated
  cases same
  exact ⟨first, mt passes.mpr failed, perm, blank, mt (reordered _ perm).2.mp failed⟩

end Config

end TestbedWatchdog
