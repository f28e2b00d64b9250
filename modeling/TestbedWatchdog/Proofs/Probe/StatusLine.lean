import TestbedWatchdog.Probe.Report
import TestbedWatchdog.Proofs.Text.Words

namespace TestbedWatchdog

-- A token that does not begin with a dot, blanks, a bar, blanks, the status and one more blank. What
-- comes behind is free.
inductive StatusLine : List Char → String → String → Prop
  | parts {token gap margin status rest : List Char} {stop : Char}
      (tokenInk : ∀ c ∈ token, Text.isBlank c = false)
      (named : token.takeWhile (· ≠ '.') ≠ [])
      (gapBlank : ∀ c ∈ gap, Text.isBlank c = true) (gapped : gap ≠ [])
      (marginBlank : ∀ c ∈ margin, Text.isBlank c = true) (margined : margin ≠ [])
      (statusInk : ∀ c ∈ status, Text.isBlank c = false) (stated : status ≠ [])
      (stopBlank : Text.isBlank stop = true) :
      StatusLine (token ++ (gap ++ '|' :: (margin ++ (status ++ stop :: rest))))
        (String.ofList (token.takeWhile (· ≠ '.'))) (String.ofList status)

namespace ProbeReport

theorem statusLine?_sound (read : statusLine? line = some (host, status)) :
    StatusLine line host status := by
  unfold statusLine? at read
  cases cut : Text.word line with
  | mk token behind =>
    obtain ⟨rfl, tokenInk, _⟩ := Text.word_eq_iff.mp cut
    simp only [cut, List.isEmpty_iff] at read
    split at read
    · cases read
    · rename_i named
      split at read
      · rename_i barred found
        obtain ⟨gap, gapped, gapBlank, rfl, _⟩ := Text.blanks?_eq_some_iff.mp found
        split at read
        · cases read
        · rename_i after opened
          obtain ⟨margin, margined, marginBlank, rfl, _⟩ := Text.blanks?_eq_some_iff.mp opened
          split at read
          · cases read
          · cases read
          · rename_i text stop rest stated ended
            obtain ⟨rfl, statusInk, stops⟩ := Text.word_eq_iff.mp ended
            cases read
            exact .parts tokenInk named gapBlank gapped marginBlank margined statusInk stated
              (stops stop rfl)
      · cases read

theorem statusLine?_complete (spoken : StatusLine line host status) :
    statusLine? line = some (host, status) := by
  cases spoken with
  | @parts token gap margin status rest stop tokenInk named gapBlank gapped marginBlank margined
      statusInk stated stopBlank =>
    have bar : Text.isBlank '|' = false := by decide
    have first : Text.word (token ++ (gap ++ '|' :: (margin ++ (status ++ stop :: rest)))) =
        (token, gap ++ '|' :: (margin ++ (status ++ stop :: rest))) := by
      refine Text.word_eq_iff.mpr ⟨rfl, tokenInk, ?_⟩
      obtain ⟨blank, more, rfl⟩ := List.exists_cons_of_ne_nil gapped
      simpa using gapBlank blank List.mem_cons_self
    have second : Text.blanks? (gap ++ '|' :: (margin ++ (status ++ stop :: rest))) =
        some ('|' :: (margin ++ (status ++ stop :: rest))) :=
      Text.blanks?_eq_some_iff.mpr ⟨gap, gapped, gapBlank, rfl, by simpa using bar⟩
    have third : Text.blanks? (margin ++ (status ++ stop :: rest)) = some (status ++ stop :: rest) := by
      refine Text.blanks?_eq_some_iff.mpr ⟨margin, margined, marginBlank, rfl, ?_⟩
      obtain ⟨ink, more, rfl⟩ := List.exists_cons_of_ne_nil stated
      simpa using statusInk ink List.mem_cons_self
    have fourth : Text.word (status ++ stop :: rest) = (status, stop :: rest) :=
      Text.word_eq_iff.mpr ⟨rfl, statusInk, by simpa using stopBlank⟩
    simp only [statusLine?, first, second, third, fourth, List.isEmpty_iff, if_neg named]

theorem statusLine?_eq_some_iff :
    statusLine? line = some (host, status) ↔ StatusLine line host status :=
  ⟨statusLine?_sound, statusLine?_complete⟩

end ProbeReport

end TestbedWatchdog
