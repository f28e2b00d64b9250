import TestbedWatchdog.CommandLine

namespace TestbedWatchdog

namespace Numeral

def digits? (text : List Char) : Option Nat :=
  if text.isEmpty || !text.all Char.isDigit then none
  else some (text.foldl (fun n digit => 10 * n + (digit.toNat - '0'.toNat)) 0)

def unsigned? : List Char → Option Nat
  | '+' :: rest => digits? rest
  | text => digits? text

-- Here a minus sign may stand there too, but no number below zero is in range.
def signed? : List Char → Option Nat
  | '-' :: rest => if digits? rest = some 0 then some 0 else none
  | text => unsigned? text

def word64 (text : String) : Except Refusal UInt64 :=
  match unsigned? text.toList with
  | some n => if n < UInt64.size then .ok (UInt64.ofNat n) else .error .badNumber
  | none => .error .badNumber

def word32 (text : String) : Except Refusal UInt32 :=
  match signed? text.toList with
  | some n => if n < UInt32.size then .ok (UInt32.ofNat n) else .error .badNumber
  | none => .error .badNumber

end Numeral

end TestbedWatchdog
