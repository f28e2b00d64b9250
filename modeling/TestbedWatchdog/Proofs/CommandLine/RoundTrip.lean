import TestbedWatchdog.Proofs.CommandLine.Choices

namespace TestbedWatchdog

theorem Meaning.ofName?_name (level : Option CommandName) :
    ∀ meaning ∈ (everywhere ++ own level).map (·.2), ofName? level meaning.name = some meaning := by
  cases level with
  | none => decide
  | some name => cases name <;> decide

def Choice.KnownAt (level : Option CommandName) (choice : Choice) : Prop :=
  choice.meaning ∈ (Meaning.everywhere ++ Meaning.own level).map (·.2)

theorem Choice.known_of_global {choice : Choice} (global : choice.isGlobal = true)
    (level : Option CommandName) : choice.KnownAt level := by
  refine List.map_subset _ (List.subset_append_left _ _) ?_
  cases choice with
  | config path => exact List.mem_cons_self
  | verbose => exact List.mem_cons_of_mem _ List.mem_cons_self
  | _ => cases global

theorem Command.choices_known (command : Command) :
    ∀ choice ∈ command.choices, choice.KnownAt (some command.name) := by
  intro choice present
  have own := command.choices_meanings.subset (List.mem_map_of_mem present)
  exact List.map_subset _ (List.subset_append_right _ _) own

theorem Choice.spelling (choice : Choice) :
    (∃ switch, choice.meaning = .switch switch ∧ choice.value? = none) ∨
      ∃ setting text, choice.meaning = .setting setting ∧ choice.value? = some text := by
  cases choice with
  | verbose | once | dryRun | json => exact .inl ⟨_, rfl, rfl⟩
  | config path => exact .inr ⟨_, _, rfl, rfl⟩
  | interval seconds => exact .inr ⟨_, _, rfl, rfl⟩
  | failureLimit limit => exact .inr ⟨_, _, rfl, rfl⟩
  | rebootLimit limit => exact .inr ⟨_, _, rfl, rfl⟩

namespace Given

variable {given : Given} {choice : Choice}

theorem flip_free (free : (!held) = true) : flip held = .ok true := by
  cases held with
  | false => rfl
  | true => cases free

theorem fill_free {held : Option α} (free : held.isNone = true) (value : α) :
    fill held (.ok value) = .ok (some value) := by
  cases held with
  | none => rfl
  | some other => cases free

theorem turnOn_vacant (vacant : given.vacant choice = true) (meant : choice.meaning = .switch switch) :
    given.turnOn switch = .ok (given.having choice) := by
  cases choice with
  | verbose | once | dryRun | json =>
    cases meant
    rw [turnOn, flip_free vacant]
    rfl
  | _ => cases meant

theorem put_vacant (vacant : given.vacant choice = true) (readable : choice ≠ .config "")
    (meant : choice.meaning = .setting setting) (valued : choice.value? = some text) :
    given.put setting text = .ok (given.having choice) := by
  cases choice with
  | config path =>
    cases meant
    cases valued
    have named : ¬ text.isEmpty = true := by
      rw [String.isEmpty_iff]
      rintro rfl
      exact readable rfl
    have read : path text = .ok text := if_neg named
    rw [put, read, fill_free vacant]
    rfl
  | interval seconds =>
    cases meant
    cases valued
    rw [put, Numeral.word64_toString, fill_free vacant]
    rfl
  | failureLimit limit | rebootLimit limit =>
    cases meant
    cases valued
    rw [put, Numeral.word32_toString, fill_free vacant]
    rfl
  | _ => cases meant

end Given

structure Given.Takes (level : Option CommandName) (given : Given) (choices : List Choice) : Prop where
  known : ∀ choice ∈ choices, choice.KnownAt level
  -- a path is never empty
  readable : .config "" ∉ choices
  vacant : ∀ choice ∈ choices, given.vacant choice = true
  distinct : (choices.map Choice.meaning).Nodup

namespace Given.Takes

variable {level : Option CommandName} {given : Given} {first : Choice} {later : List Choice}

theorem tail (takes : Takes level given (first :: later)) : Takes level (given.having first) later := by
  obtain ⟨fresh, distinct⟩ := List.nodup_cons.mp takes.distinct
  refine ⟨fun choice present => takes.known choice (List.mem_cons_of_mem _ present),
    fun unnamed => takes.readable (List.mem_cons_of_mem _ unnamed), fun choice present => ?_, distinct⟩
  have different : first.meaning ≠ choice.meaning := by
    intro same
    exact fresh (same ▸ List.mem_map_of_mem present)
  rw [vacant_having different]
  exact takes.vacant choice (List.mem_cons_of_mem _ present)

theorem step (takes : Takes level given (first :: later)) :
    Reading.step level { given := given } first.spelled = .ok { given := given.having first } := by
  have name := Meaning.ofName?_name level _ (takes.known first List.mem_cons_self)
  have vacant := takes.vacant first List.mem_cons_self
  have readable : first ≠ .config "" := fun unnamed => takes.readable (unnamed ▸ List.mem_cons_self)
  rcases first.spelling with ⟨switch, meant, valued⟩ | ⟨setting, text, meant, valued⟩
  · have turned := turnOn_vacant vacant meant
    rw [meant] at name
    simp only [Reading.step, Choice.ofText_spelled, meant, valued, Reading.long, name, Reading.settled,
      Reading.settle, turned]
    rfl
  · have put := put_vacant vacant readable meant valued
    rw [meant] at name
    simp only [Reading.step, Choice.ofText_spelled, meant, valued, Reading.long, name, Reading.settled,
      Reading.settle, put]
    rfl

theorem foldlM_step {choices : List Choice} (takes : Takes level given choices) :
    (choices.map Choice.spelled).foldlM (Reading.step level) { given := given } =
      .ok { given := choices.foldl having given } := by
  induction choices generalizing given with
  | nil => rfl
  | cons first later ih =>
    rw [List.map_cons, List.foldlM_cons, takes.step]
    exact ih takes.tail

theorem read_append {choices : List Choice} (takes : Takes none given choices) (rest : List String) :
    CommandLine.read { given := given } (choices.map Choice.spelled ++ rest) =
      CommandLine.read { given := choices.foldl having given } rest := by
  induction choices generalizing given with
  | nil => rfl
  | cons first later ih =>
    have stands : Reading.standsAlone { given := given } first.spelled = false := by
      simp [Reading.standsAlone, Choice.ofText_spelled]
    rw [List.map_cons, List.cons_append, CommandLine.read]
    simp only [stands, takes.step]
    exact ih takes.tail

end Given.Takes

-- The operand of a reboot stands behind a separator, so it may look like anything.
def Command.operands : Command → List String
  | reboot host _ => ["--", host]
  | _ => []

namespace Given

theorem foldl_having_operands (choices : List Choice) (given : Given) :
    (choices.foldl having given).host = given.host ∧ (choices.foldl having given).shell = given.shell := by
  induction choices generalizing given with
  | nil => exact ⟨rfl, rfl⟩
  | cons first later ih =>
    have kept : (given.having first).host = given.host ∧ (given.having first).shell = given.shell := by
      cases first <;> exact ⟨rfl, rfl⟩
    rw [List.foldl_cons, (ih _).1, (ih _).2]
    exact kept

end Given

theorem Command.operands_read (command : Command) {given : Given} (noHost : given.host = none)
    (noShell : given.shell = none) :
    (command.operands.foldlM (Reading.step (some command.name)) { given := given }).bind Reading.settle =
      .ok (given.addressing command.host?) := by
  have unaddressed : given.addressing none = given := by
    rw [Given.addressing, ← noHost]
  cases command with
  | reboot host dryRun =>
    have dashes : Argument.ofText "--" = .escape := by decide
    have separator : Reading.step (some .reboot) { given := given } "--" =
        .ok { given := given, closed := true } := by
      simp only [Reading.step, dashes]
      rfl
    have operand : Reading.step (some .reboot) { given := given, closed := true } host =
        .ok { given := given, pending := .operand .host host, closed := true } := by
      simp only [Reading.step, Reading.operand, Reading.hasOperand, Operand.of?, noHost, noShell]
      rfl
    change ((["--", host].foldlM (Reading.step (some .reboot)) { given := given }).bind Reading.settle) = _
    rw [List.foldlM_cons, separator]
    change (([host].foldlM (Reading.step (some .reboot)) { given := given, closed := true }).bind
      Reading.settle) = _
    rw [List.foldlM_cons, operand]
    rfl
  | watch flags => exact congrArg Except.ok unaddressed.symm
  | probe json => exact congrArg Except.ok unaddressed.symm
  | session json => exact congrArg Except.ok unaddressed.symm
  | completion shell => exact congrArg Except.ok unaddressed.symm

theorem CommandName.ofText_name (name : CommandName) : Argument.ofText name.name = .word name.name := by
  cases name <;> decide

namespace CommandLine

variable {line : CommandLine} {before behind part : List Choice} {given outer : Given}

def arguments (line : CommandLine) (before behind : List Choice) : List String :=
  before.map Choice.spelled ++ line.command.name.name ::
    (behind.map Choice.spelled ++ line.command.operands)

theorem unnamed_not_mem (named : line.config ≠ some "") : .config "" ∉ line.choices := by
  intro unnamed
  rcases List.mem_append.mp unnamed with everywhere | own
  · rcases List.mem_append.mp everywhere with config | verbose
    · obtain ⟨path, held, same⟩ := Option.map_eq_some_iff.mp (Option.mem_toList.mp config)
      cases same
      exact named held
    · rw [List.mem_ite_nil_right, List.mem_singleton] at verbose
      cases verbose.2
  · have meant := line.command.choices_meanings.subset (List.mem_map_of_mem own)
    generalize line.command.name = name at meant
    revert meant
    cases name <;> decide

theorem known_behind (present : choice ∈ line.choices) : choice.KnownAt (some line.command.name) := by
  rcases List.mem_append.mp present with everywhere | own
  · exact Choice.known_of_global (line.globalChoices_global choice everywhere) _
  · exact line.command.choices_known choice own

theorem takes_part (named : line.config ≠ some "") (known : ∀ choice ∈ part, choice.KnownAt level)
    (present : part ⊆ line.choices) (distinct : (part.map Choice.meaning).Nodup) :
    Given.Takes level {} part where
  known := known
  readable unnamed := unnamed_not_mem named (present unnamed)
  vacant choice _ := by cases choice <;> rfl
  distinct := distinct

theorem read_command (name : CommandName) (args : List String)
    (found : CommandLine.behind name args = .ok (given, asked)) :
    read { given := outer } (name.name :: args) =
      .ok ⟨(given.atop outer).config, (given.atop outer).verbose, asked⟩ := by
  have stands : Reading.standsAlone { given := outer } name.name = true := by
    simp [Reading.standsAlone, CommandName.ofText_name]
  rw [read]
  simp only [stands, CommandName.ofName?_name, found]
  rfl

theorem behind_written (takes : Given.Takes (some line.command.name) {} behind)
    (amounts : ((behind.foldl Given.having {}).addressing line.command.host?).command line.command.name =
      .ok line.command) :
    CommandLine.behind line.command.name (behind.map Choice.spelled ++ line.command.operands) =
      .ok ((behind.foldl Given.having {}).addressing line.command.host?, line.command) := by
  obtain ⟨noHost, noShell⟩ := Given.foldl_having_operands behind {}
  have settled := line.command.operands_read noHost noShell
  rw [CommandLine.behind, List.foldlM_append, takes.foldlM_step]
  change (line.command.operands.foldlM _ _ >>= fun reading => _) = _
  cases read : line.command.operands.foldlM (Reading.step (some line.command.name))
      { given := behind.foldl Given.having {} } with
  | error refusal =>
    rw [read] at settled
    cases settled
  | ok reading =>
    rw [read] at settled
    have given : reading.settle = .ok _ := settled
    change (reading.settle >>= fun given => given.command _ >>= fun asked => _) = _
    rw [given]
    change (Given.command _ _ >>= fun asked => _) = _
    rw [amounts]
    rfl

theorem every_spelling_reads_back (complete : ∀ shell, line.command ≠ .completion shell) (named : line.config ≠ some "")
    (early : ∀ choice ∈ before, choice.isGlobal = true) (written : (before ++ behind).Perm line.choices) :
    ofArgs (line.arguments before behind) = .ok line := by
  obtain ⟨front, back⟩ := List.append_subset.mp written.subset
  have distinct := (written.map Choice.meaning).nodup_iff.mpr line.choices_distinct
  rw [List.map_append] at distinct
  have takesFront : Given.Takes none {} before :=
    takes_part named (fun choice present => Choice.known_of_global (early choice present) none) front
      distinct.of_append_left
  have takesBack : Given.Takes (some line.command.name) {} behind :=
    takes_part named (fun choice present => known_behind (back present)) back distinct.of_append_right
  -- both parts come to what the choices of the line come to in their own order
  have whole : (behind.foldl Given.having {}).atop (before.foldl Given.having {}) =
      line.choices.foldl Given.having {} := by
    rw [← Given.foldl_having_append early]
    exact (Given.foldl_having_perm line.choices_distinct written.symm {}).symm
  obtain ⟨config, verbose, command⟩ := line.given_choices complete
  rw [← whole] at config verbose command
  have amounts : ((behind.foldl Given.having {}).addressing line.command.host?).command line.command.name =
      .ok line.command :=
    (Given.command_atop (Given.addressing _ _) _ _).symm.trans command
  rw [ofArgs, arguments, takesFront.read_append, read_command _ _ (behind_written takesBack amounts)]
  calc Except.ok _ = .ok ⟨line.config, line.verbose, line.command⟩ := by
        rw [← config, ← verbose]
        rfl
    _ = .ok line := rfl

-- A path that looks like an option, and a host that looks like a separator.
theorem reboot_of_two_dashes :
    let line : CommandLine := { config := some "--json=x", verbose := true, command := .reboot "--" true }
    let args := ["--config=--json=x", "reboot", "--dry-run", "--verbose", "--", "--"]
    line.arguments [.config "--json=x"] [.dryRun, .verbose] = args ∧ ofArgs args = .ok line := by
  intro line args
  let before : List Choice := [.config "--json=x"]
  let behind : List Choice := [.dryRun, .verbose]
  have spelled : line.arguments before behind = args := by decide
  have complete : ∀ shell, line.command ≠ .completion shell := nofun
  have named : line.config ≠ some "" := by decide
  have early : ∀ choice ∈ before, choice.isGlobal = true := by decide
  have written : (before ++ behind).Perm line.choices := by decide
  exact ⟨spelled, spelled ▸ every_spelling_reads_back complete named early written⟩

end CommandLine

end TestbedWatchdog
