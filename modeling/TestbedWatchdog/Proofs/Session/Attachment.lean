import TestbedWatchdog.Proofs.Session.Detection
import TestbedWatchdog.Proofs.Session.MaterializationPattern
import TestbedWatchdog.Proofs.Text.Utf8
import TestbedWatchdog.Proofs.Tool

namespace TestbedWatchdog

namespace MaterializationParts

variable {parts : MaterializationParts} {line rest : List Char} {c : Char}

def ending (parts : MaterializationParts) (rest : List Char) : MaterializationParts :=
  { parts with rest := rest }

theorem ending_line (parts : MaterializationParts) (rest : List Char) :
    (parts.ending rest).line = (parts.ending []).line ++ rest := by
  have words : (parts.ending rest).words = (parts.ending []).words ++ rest := by
    simp [ending, MaterializationParts.words]
  rw [MaterializationParts.line, MaterializationParts.line, words, List.append_assoc]

theorem Lawful.ending (lawful : parts.Lawful) (ends : ∀ c ∈ rest.head?, Text.isBlank c = true) :
    (parts.ending rest).Lawful where
  first := lawful.first
  project := lawful.project
  second := lawful.second
  experiment := lawful.experiment
  third := lawful.third
  materialization := lawful.materialization
  ends := ends

theorem Lawful.closes (lawful : parts.Lawful) (same : (parts.ending []).line = line ++ [c]) :
    Text.isBlank c = false := by
  cases List.eq_nil_or_concat' parts.materialization with
  | inl none => exact absurd none lawful.materialization.some
  | inr word =>
    obtain ⟨front, last, word⟩ := word
    have words : (parts.ending []).words = parts.first ++ (parts.project ++ (parts.second ++
        (parts.experiment ++ (parts.third ++ front)))) ++ [last] := by
      simp [MaterializationParts.ending, MaterializationParts.words, word]
    rw [MaterializationParts.line, words, ← List.append_assoc] at same
    obtain ⟨_, equal⟩ := List.append_inj' same rfl
    cases equal
    apply lawful.materialization.ink
    rw [word]
    exact List.mem_append_right _ (List.mem_singleton_self _)

end MaterializationParts

namespace Session

variable {line : List Char} {session : Session} {c : Char}

theorem naming_append_blank (blank : Text.isBlank c = true) :
    MaterializationLine (line ++ [c]) session ↔ MaterializationLine line session := by
  simp only [materializationLine_iff_parts]
  constructor
  · intro named
    obtain ⟨parts, lawful, same, rfl⟩ := named
    have whole : (parts.ending []).line ++ parts.rest = line ++ [c] :=
      (parts.ending_line parts.rest).symm.trans same
    cases List.eq_nil_or_concat' parts.rest with
    | inl none =>
      rw [none, List.append_nil] at whole
      rw [lawful.closes whole] at blank
      cases blank
    | inr behind =>
      obtain ⟨rest, last, behind⟩ := behind
      rw [behind, ← List.append_assoc] at whole
      obtain ⟨kept, _⟩ := List.append_inj' whole rfl
      have ends : ∀ next ∈ rest.head?, Text.isBlank next = true := by
        intro next first
        apply lawful.ends
        rw [behind, List.head?_append, Option.mem_def.mp first]
        rfl
      exact ⟨parts.ending rest, lawful.ending ends, (parts.ending_line rest).trans kept, rfl⟩
  · intro named
    obtain ⟨parts, lawful, rfl, rfl⟩ := named
    have ends : ∀ next ∈ (parts.rest ++ [c]).head?, Text.isBlank next = true := by
      cases behind : parts.rest with
      | nil =>
        intro next first
        cases Option.some.inj first
        exact blank
      | cons first later => simpa [behind] using lawful.ends
    refine ⟨parts.ending (parts.rest ++ [c]), lawful.ending ends, ?_, rfl⟩
    rw [parts.ending_line, ← List.append_assoc, ← parts.ending_line]
    rfl

theorem ofLine?_append_carriage (line : List Char) : ofLine? (line ++ ['\r']) = ofLine? line := by
  ext session
  have carriage : Text.isBlank '\r' = true := by decide
  simp only [ofLine?_eq_some_iff, naming_append_blank carriage]

theorem parse?_combined (output : Output) :
    parse? output.combined = (parse? output.stdout).or (parse? output.stderr) :=
  Output.findSome?_combined rfl ofLine?_append_carriage output

theorem detect_ended {tools : Tools ω} {settings : SessionSettings} {world : ω}
    (ended : (tools (invocation settings) world).1 = .ended status stdout stderr) :
    (detect tools settings world).value =
      ofOutput ⟨status, Text.decoded stdout, Text.decoded stderr⟩ := by
  simp only [detect, bind, Act.andThen, Act.run_eq, ended, Reply.output]
  rfl

theorem ofOutput_succeeded (stdout stderr : String) : ofOutput ⟨.exited 0, stdout, stderr⟩ =
    match (parse? stdout).or (parse? stderr) with
    | some session => .ok session
    | none => .error .sessionUnparsed := by
  rw [← parse?_combined ⟨.exited 0, stdout, stderr⟩]
  rfl

theorem ofOutput_failed (unsuccessful : status ≠ .exited 0) (stdout stderr : String) :
    ofOutput ⟨status, stdout, stderr⟩ = .error .notAttached := by
  cases status with
  | killed => rfl
  | exited code =>
    have nonzero : code ≠ 0 := fun zero => unsuccessful (congrArg Status.exited zero)
    simp [ofOutput, Status.isSuccess, nonzero]

-- What is detected once the session tool has ended: the session that standard output names by itself, or
-- else the one that standard error does.
theorem detected_in_either_stream (tools : Tools ω) (settings : SessionSettings) (world : ω)
    (status : Status) (stdout stderr : List UInt8)
    (ended : (tools (invocation settings) world).1 = .ended status stdout stderr) :
    let found := (detect tools settings world).value
    let first := parse? (Text.decoded stdout)
    let second := parse? (Text.decoded stderr)
    (status = .exited 0 →
      (∀ session, first = some session → found = .ok session) ∧
      (∀ session, first = none → second = some session → found = .ok session) ∧
      (first = none → second = none → found = .error .sessionUnparsed)) ∧
    (status ≠ .exited 0 → found = .error .notAttached) := by
  intro found first second
  have same : found = ofOutput ⟨status, Text.decoded stdout, Text.decoded stderr⟩ := detect_ended ended
  rw [same]
  constructor
  · intro succeeded
    subst succeeded
    rw [ofOutput_succeeded]
    refine ⟨?_, ?_, ?_⟩
    · intro session named
      simp only [first] at named
      rw [named]
      rfl
    · intro session silent named
      simp only [first, second] at silent named
      rw [silent, named]
      rfl
    · intro silent alike
      simp only [first, second] at silent alike
      rw [silent, alike]
      rfl
  · intro unsuccessful
    exact ofOutput_failed unsuccessful _ _

-- Standard output breaks off within the last word of its only line, or before it; what standard error begins
-- with is no part of that line.
theorem detected_across_streams :
    let ascii (text : String) : List UInt8 := text.toList.map (·.toNat.toUInt8)
    let prints (status : Status) (stdout stderr : String) : Tools Unit := fun _ _ =>
      (.ended status (ascii stdout) (ascii stderr), ())
    let detected (status : Status) (stdout stderr : String) :=
      (detect (prints status stdout stderr) {} ()).value
    detected (.exited 0) "Materialization: d m real\r" "ly\nMaterialization: p e m\n" =
        .ok ⟨"d", "m", "real"⟩ ∧
      detected (.exited 0) "Materialization: d m" "real\nMaterialization: p e m" = .ok ⟨"p", "e", "m"⟩ ∧
      detected (.exited 0) "Materialization: d m" "real" = .error .sessionUnparsed ∧
      detected .killed "Materialization: d m real\n" "" = .error .notAttached := by
  intro ascii prints detected
  have whole : parse? (Text.decoded (ascii "Materialization: d m real\r")) = some ⟨"d", "m", "real"⟩ := by
    decide +kernel
  have broken : parse? (Text.decoded (ascii "Materialization: d m")) = none := by decide +kernel
  have behind : parse? (Text.decoded (ascii "real\nMaterialization: p e m")) = some ⟨"p", "e", "m"⟩ := by
    decide +kernel
  have nothing : parse? (Text.decoded (ascii "real")) = none := by decide +kernel
  refine ⟨?_, ?_, ?_, ?_⟩
  · exact ((detected_in_either_stream _ _ _ _ _ _ rfl).1 rfl).1 _ whole
  · exact ((detected_in_either_stream _ _ _ _ _ _ rfl).1 rfl).2.1 _ broken behind
  · exact ((detected_in_either_stream _ _ _ _ _ _ rfl).1 rfl).2.2 broken nothing
  · exact (detected_in_either_stream _ _ _ _ _ _ rfl).2 (by decide)

end Session

end TestbedWatchdog
