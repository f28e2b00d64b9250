import TestbedWatchdog.Toml.Text
import TestbedWatchdog.Toml.Value

namespace TestbedWatchdog.Toml

-- Digits, with single underscores between them; an underscore that no digit follows is left.
def digitRun (digit : Char → Bool) : List Char → List Char × List Char
  | '_' :: c :: rest =>
    if digit c then
      let run := digitRun digit rest
      (c :: run.1, run.2)
    else ([], '_' :: c :: rest)
  | c :: rest =>
    if digit c then
      let run := digitRun digit rest
      (c :: run.1, run.2)
    else ([], c :: rest)
  | [] => ([], [])

def digits (digit : Char → Bool) : Reader (List Char) := do
  let first ← Reader.take digit
  let rest ← fun text => some (digitRun digit text)
  pure (first :: rest)

def valueIn (base : Nat) (digits : List Char) : Nat :=
  digits.foldl (fun total digit => total * base + (hexValue? digit).getD 0) 0

-- True for minus.
def sign : Reader Bool
  | '-' :: rest => some (true, rest)
  | '+' :: rest => some (false, rest)
  | text => some (false, text)

def signed (negative : Bool) (n : Nat) : Int := if negative then -(n : Int) else n

def decimalDigits : Reader (List Char)
  | '0' :: rest => some (['0'], rest)
  | text => digits isDigit text

def inWord (n : Int) : Option Int :=
  if -0x8000000000000000 ≤ n ∧ n < 0x8000000000000000 then some n else none

def isBase (base : Nat) (c : Char) : Bool :=
  match hexValue? c with
  | some value => value < base
  | none => false

def based (mark : Char) (base : Nat) : Reader Int := do
  Reader.expect ['0', mark]
  let found ← digits (isBase base)
  inWord (valueIn base found)

def decimal : Reader Int := do
  let negative ← sign
  let found ← decimalDigits
  inWord (signed negative (valueIn 10 found))

def integer : Reader Int := based 'x' 16 <|> based 'o' 8 <|> based 'b' 2 <|> decimal

def fraction : Reader (List Char) := do
  Reader.expect ['.']
  digits isDigit

def exponent : Reader Int := do
  let _ ← Reader.take fun c => c == 'e' || c == 'E'
  let negative ← sign
  let found ← digits isDigit
  pure (signed negative (valueIn 10 found))

-- A fraction, an exponent or both: without either it is an integer.
def tail : Reader (List Char × Int) :=
  (do
    let power ← exponent
    pure ([], power)) <|>
  (do
    let places ← fraction
    let power ← Reader.optional exponent
    pure (places, power.getD 0))

-- Only a positive literal past the greatest number is refused.
def rounded (negative : Bool) (coefficient : Nat) (power : Int) : Option Real :=
  match Decimal.nearest? coefficient power, negative with
  | some _, _ => some (.finite negative coefficient power)
  | none, true => some (.infinity true)
  | none, false => none

def finite : Reader Real := do
  let negative ← sign
  let whole ← decimalDigits
  let (places, power) ← tail
  rounded negative (valueIn 10 (whole ++ places)) (power - places.length)

def special : Reader Real := do
  let negative ← sign
  (do Reader.expect "inf".toList; pure (.infinity negative)) <|> (do Reader.expect "nan".toList; pure .nan)

def real : Reader Real := finite <|> special

end TestbedWatchdog.Toml
