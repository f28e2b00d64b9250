import TestbedWatchdog.Proofs.Text.FirstLine
import TestbedWatchdog.Tool

namespace TestbedWatchdog.Output

theorem combined_toList (output : Output) : output.combined.toList =
    if output.stderr.toList = [] then output.stdout.toList
    else if output.stdout.toList = [] then output.stderr.toList
    else output.stdout.toList ++ ['\n'] ++ output.stderr.toList := by
  have newline : "\n".toList = ['\n'] := by decide
  unfold combined
  simp only [String.isEmpty_iff, ← String.toList_eq_nil_iff]
  split
  · rfl
  · split
    · rfl
    · rw [String.toList_append, String.toList_append, newline]

-- Who looks for a line, with no eye for a carriage return at its end, finds what the one stream holds or else
-- what the other does.
theorem findSome?_combined {read : List Char → Option β} (nothing : read [] = none)
    (same : ∀ line, read (line ++ ['\r']) = read line) (output : Output) :
    (Text.lines output.combined.toList).findSome? read =
      ((Text.lines output.stdout.toList).findSome? read).or
        ((Text.lines output.stderr.toList).findSome? read) := by
  rw [combined_toList]
  split
  · rename_i quiet
    rw [quiet]
    exact Option.or_none.symm
  · split
    · rename_i quiet
      rw [quiet]
      rfl
    · have complete : ∀ last ∈ (output.stdout.toList ++ ['\n']).getLast?, last = '\n' := by
        intro last ends
        rw [List.getLast?_append] at ends
        exact (Option.some.inj ends).symm
      rw [Text.lines_append complete, List.findSome?_append, Text.findSome?_lines_newline nothing same]

end TestbedWatchdog.Output
