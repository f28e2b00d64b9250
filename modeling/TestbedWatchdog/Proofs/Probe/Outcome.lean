import TestbedWatchdog.Proofs.Probe.Ping
import TestbedWatchdog.Proofs.Tool

namespace TestbedWatchdog

-- The line that a message takes from an output. A carriage return with which standard output breaks off
-- goes with the newline that stands between the streams.
structure Output.Quoted (output : Output) (line : List Char) : Prop where
  first : Text.FirstInked output.combined.toList line ∨
    line = [] ∧ ∀ other, ¬ Text.FirstInked output.combined.toList other
  fromOutput : ∀ other, Text.FirstInked output.stdout.toList other →
    other = line ∨ other = line ++ ['\r'] ∧ other <:+ output.stdout.toList
  fromErrors : (∀ other, ¬ Text.FirstInked output.stdout.toList other) →
    ∀ other, Text.FirstInked output.stderr.toList other → other = line
  empty : line = [] ↔
    Text.allBlank output.stdout.toList = true ∧ Text.allBlank output.stderr.toList = true

namespace Output

variable {output : Output}

theorem inkedLine?_combined (output : Output) : ∃ first,
    Text.inkedLine? output.combined.toList = first.or (Text.inkedLine? output.stderr.toList) ∧
      (first = Text.inkedLine? output.stdout.toList ∨
        ∃ line, first = some line ∧ Text.inkedLine? output.stdout.toList = some (line ++ ['\r']) ∧
          line ++ ['\r'] <:+ output.stdout.toList) := by
  rw [combined_toList]
  split
  · rename_i quiet
    refine ⟨_, ?_, .inl rfl⟩
    rw [quiet]
    exact Option.or_none.symm
  · split
    · rename_i quiet
      refine ⟨_, ?_, .inl rfl⟩
      rw [quiet]
      rfl
    · refine ⟨_, Text.inkedLine?_append ?_, Text.inkedLine?_newline _⟩
      intro last ends
      rw [List.getLast?_append] at ends
      exact (Option.some.inj ends).symm

theorem getD_inkedLine?_eq_nil_iff :
    (Text.inkedLine? text).getD [] = [] ↔ Text.inkedLine? text = none := by
  cases found : Text.inkedLine? text with
  | none => simp
  | some line =>
    obtain ⟨_, _, _, _, ink⟩ := Text.inkedLine?_eq_some_iff.mp found
    have some : line ≠ [] := by
      rintro rfl
      cases ink
    simp [some]

theorem quoted_inkedLine? (output : Output) :
    output.Quoted ((Text.inkedLine? output.combined.toList).getD []) := by
  obtain ⟨first, whole, origin⟩ := inkedLine?_combined output
  constructor
  · cases found : Text.inkedLine? output.combined.toList with
    | some line => exact .inl (Text.inkedLine?_eq_some_iff.mp found)
    | none => exact .inr ⟨rfl, Text.inkedLine?_eq_none.mp found⟩
  · intro other there
    have found := Text.inkedLine?_eq_some_iff.mpr there
    rcases origin with rfl | ⟨line, rfl, cut, ends⟩
    · rw [whole, found]
      exact .inl rfl
    · obtain rfl := Option.some.inj (cut.symm.trans found)
      rw [whole]
      exact .inr ⟨rfl, ends⟩
  · intro silent other there
    have found := Text.inkedLine?_eq_some_iff.mpr there
    have none := Text.inkedLine?_eq_none.mpr silent
    rcases origin with rfl | ⟨line, rfl, cut, _⟩
    · rw [whole, none, found]
      rfl
    · rw [cut] at none
      cases none
  · rw [getD_inkedLine?_eq_nil_iff, whole, Option.or_eq_none_iff, ← Text.inkedLine?_eq_none_iff,
      ← Text.inkedLine?_eq_none_iff]
    rcases origin with rfl | ⟨line, rfl, cut, _⟩
    · rfl
    · simp [cut]

end Output

namespace Probe

variable {settings : ProbeSettings} {hosts : List String}

def complaint (status : Status) (line : List Char) : Error :=
  .probeFailed ("no host status lines in output (" ++ status.summary ++ "): " ++ String.ofList line)

theorem judge_complains (silent : ¬ ProbeReport.HasStatusLine (Text.decoded stdout).toList) :
    ∃ line, judge settings hosts (.ended status stdout stderr) = .error (complaint status line) ∧
      Output.Quoted ⟨status, Text.decoded stdout, Text.decoded stderr⟩ line :=
  ⟨_, judge_uninformed silent, Output.quoted_inkedLine? _⟩

theorem judge_failed (failed : judge settings hosts reply = .error error) :
    ∃ reason, error = .probeFailed reason := by
  rcases reply.ended_or_failed (invocation settings) with ⟨status, stdout, stderr, rfl⟩ | ⟨error, lost, _⟩
  · by_cases informed : ProbeReport.HasStatusLine (Text.decoded stdout).toList
    · rw [judge_informed informed] at failed
      cases failed
    · obtain ⟨line, judged, _⟩ := judge_complains informed
      exact ⟨_, Except.error.inj (failed.symm.trans judged)⟩
  · exact ⟨_, Except.error.inj (failed.symm.trans (judge_of_failed lost))⟩

theorem judge_ok_iff : (∃ report, judge settings hosts reply = .ok report) ↔
    ∃ status stdout stderr, reply = .ended status stdout stderr ∧
      ProbeReport.HasStatusLine (Text.decoded stdout).toList := by
  constructor
  · rintro ⟨report, judged⟩
    rcases reply.ended_or_failed (invocation settings) with ⟨status, stdout, stderr, rfl⟩ | ⟨error, failed, _⟩
    · refine ⟨status, stdout, stderr, rfl, Classical.byContradiction fun silent => ?_⟩
      obtain ⟨line, failed, _⟩ := judge_complains silent
      cases failed.symm.trans judged
    · cases (judge_of_failed failed).symm.trans judged
  · rintro ⟨status, stdout, stderr, rfl, informed⟩
    exact ⟨_, judge_informed informed⟩

theorem judge_ok_congr (status other : Status) (stdout stderr noise : List UInt8) :
    judge settings hosts (.ended status stdout stderr) = .ok report ↔
      judge settings hosts (.ended other stdout noise) = .ok report := by
  by_cases informed : ProbeReport.HasStatusLine (Text.decoded stdout).toList
  · rw [judge_informed informed, judge_informed informed]
  · obtain ⟨_, one, _⟩ := judge_complains informed
    obtain ⟨_, two, _⟩ := judge_complains informed
    rw [one, two]
    exact ⟨fun ok => (by cases ok), fun ok => (by cases ok)⟩

theorem ping_succeeds_on_status_line (tools : Tools ω) (settings : ProbeSettings) (hosts : List String)
    (world : ω) :
    let reply := (tools (invocation settings) world).1
    let found := (ping tools settings hosts world).value
    ((∃ report, found = .ok report) ↔ ∃ status stdout stderr, reply = .ended status stdout stderr ∧
      ProbeReport.HasStatusLine (Text.decoded stdout).toList) ∧
    (∀ error, found = .error error → ∃ reason, error = .probeFailed reason) ∧
    ∀ status stdout stderr, reply = .ended status stdout stderr →
      (ProbeReport.HasStatusLine (Text.decoded stdout).toList →
        found = .ok ((ProbeReport.parse (Text.decoded stdout)).restrictTo hosts)) ∧
      (¬ ProbeReport.HasStatusLine (Text.decoded stdout).toList → ∃ line,
        found = .error (complaint status line) ∧
          Output.Quoted ⟨status, Text.decoded stdout, Text.decoded stderr⟩ line) ∧
      ∀ (place : Type) (others : Tools place) (elsewhere : place) (exit : Status) (noise : List UInt8),
        (others (invocation settings) elsewhere).1 = .ended exit stdout noise →
          ∀ report, found = .ok report ↔ (ping others settings hosts elsewhere).value = .ok report := by
  intro reply found
  have judged : found = judge settings hosts reply := (ping_judges tools settings hosts world).2
  refine ⟨?_, ?_, ?_⟩
  · rw [judged]
    exact judge_ok_iff
  · intro error failed
    exact judge_failed (judged.symm.trans failed)
  · intro status stdout stderr ended
    rw [judged, ended]
    refine ⟨judge_informed, judge_complains, ?_⟩
    intro place others elsewhere exit noise same report
    have again := (ping_judges others settings hosts elsewhere).2
    rw [again, same]
    exact judge_ok_congr _ _ _ _ _

-- A tool that names nobody of the list, whether it fails or is killed; and one that names a host on the
-- stream that does not count, behind a carriage return.
theorem informed_by_output_alone :
    let ascii (text : String) : List UInt8 := text.toList.map (·.toNat.toUInt8)
    let tells (status : Status) (stderr : String) : Tools Unit := fun _ _ =>
      (.ended status (ascii "n1 | DOWN => x\n") (ascii stderr), ())
    let grumbles : Tools Unit := fun _ _ =>
      (.ended (.exited 1) (ascii " \noops\r") (ascii "n1 | DOWN => x\n"), ())
    let told := (ProbeReport.parse "n1 | DOWN => x\n").restrictTo ["n9"]
    told.statuses.hosts = [] ∧ told.missing.hosts = ["n9"] ∧
      (ping (tells (.exited 4) "") {} ["n9"] ()).value = .ok told ∧
      (ping (tells .killed "oops") {} ["n9"] ()).value = .ok told ∧
      (ping grumbles {} [] ()).value = .error (complaint (.exited 1) "oops".toList) := by
  intro ascii tells grumbles told
  have read : Text.decoded (ascii "n1 | DOWN => x\n") = "n1 | DOWN => x\n" := by decide +kernel
  have informed : ProbeReport.HasStatusLine (Text.decoded (ascii "n1 | DOWN => x\n")).toList := by
    refine Classical.byContradiction fun silent => ?_
    exact absurd ((ProbeReport.isEmpty_parse_iff _).mpr silent) (by decide +kernel)
  obtain ⟨_, _, ended⟩ := ping_succeeds_on_status_line (tells (.exited 4) "") {} ["n9"] ()
  obtain ⟨success, _, alike⟩ := ended _ _ _ rfl
  have reported := success informed
  rw [read] at reported
  have silent : ¬ ProbeReport.HasStatusLine (Text.decoded (ascii " \noops\r")).toList :=
    (ProbeReport.isEmpty_parse_iff _).mp (by decide +kernel)
  obtain ⟨_, _, failing⟩ := ping_succeeds_on_status_line grumbles {} [] ()
  obtain ⟨line, failed, quoted⟩ := (failing _ _ _ rfl).2.1 silent
  have first : Text.inkedLine? (Output.combined ⟨.exited 1, Text.decoded (ascii " \noops\r"),
      Text.decoded (ascii "n1 | DOWN => x\n")⟩).toList = some "oops".toList := by decide +kernel
  rcases quoted.first with there | ⟨_, nowhere⟩
  · obtain rfl := Option.some.inj (first.symm.trans (Text.inkedLine?_eq_some_iff.mpr there))
    exact ⟨by decide +kernel, by decide +kernel, reported, (alike Unit _ () .killed _ rfl _).mp reported,
      failed⟩
  · exact absurd (Text.inkedLine?_eq_some_iff.mp first) (nowhere _)

end Probe

end TestbedWatchdog
