import TestbedWatchdog.Toml.Text

namespace TestbedWatchdog.Toml

def number (width : Nat) : Reader Nat := do
  let found ← Reader.takeExactly isDigit width
  pure (found.foldl (fun total digit => total * 10 + ((hexValue? digit).getD 0)) 0)

def numberWithin (low high : Nat) : Reader Nat := do
  let n ← number 2
  if low ≤ n ∧ n ≤ high then pure n else failure

def isLeap (year : Nat) : Bool := year % 4 == 0 && (year % 100 != 0 || year % 400 == 0)

def daysIn (year month : Nat) : Nat :=
  if month = 2 then (if isLeap year then 29 else 28)
  else if month ∈ [4, 6, 9, 11] then 30
  else 31

def date : Reader Unit := do
  let year ← number 4
  Reader.expect ['-']
  let month ← numberWithin 1 12
  Reader.expect ['-']
  let day ← numberWithin 1 31
  if day ≤ daysIn year month then pure () else failure

-- A minute may have a leap second.
def time : Reader Unit := do
  let _ ← numberWithin 0 23
  Reader.expect [':']
  let _ ← numberWithin 0 59
  Reader.expect [':']
  let _ ← numberWithin 0 60
  let _ ← Reader.optional do
    Reader.expect ['.']
    let _ ← Reader.take isDigit
    let _ ← Reader.takeAll isDigit

def offset : Reader Unit :=
  (do let _ ← Reader.take fun c => c == 'Z' || c == 'z') <|>
  (do
    let _ ← Reader.take fun c => c == '+' || c == '-'
    let _ ← numberWithin 0 23
    Reader.expect [':']
    let _ ← numberWithin 0 59)

def moment : Reader Unit :=
  (do
    date
    let _ ← Reader.optional do
      let _ ← Reader.take fun c => c == 'T' || c == 't' || c == ' '
      time
      let _ ← Reader.optional offset) <|>
  time

end TestbedWatchdog.Toml
