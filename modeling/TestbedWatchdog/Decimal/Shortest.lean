namespace TestbedWatchdog.Decimal

-- A finite number without its sign, `significand * 2 ^ scale`. At a power of two the gap below is half
-- the gap above.
structure Binary where
  significand : Nat
  scale : Int
  halfGapBelow : Bool
deriving DecidableEq

def Binary.ofBits (bits : Nat) : Binary :=
  let exponent : Nat := (bits >>> 52) % 0x800
  let fraction := bits % 0x10000000000000
  if exponent = 0 then ⟨fraction, -1074, false⟩
  else ⟨0x10000000000000 + fraction, (exponent : Int) - 1075, fraction == 0 && exponent != 1⟩

def digitCount (n : Nat) : Nat := (Nat.toDigits 10 n).length

-- The binary64 number nearest to `digits * 10 ^ exponent`; nothing if that is past the greatest one.
def nearest? (digits : Nat) (exponent : Int) : Option Binary :=
  let size := (digitCount digits : Int) + exponent
  if digits = 0 ∨ size < -400 then some ⟨0, -1074, false⟩
  else if 400 < size then none
  else
    let number := Float.ofScientific digits (exponent < 0) exponent.natAbs
    if number.isInf then none else some (.ofBits number.toBits.toNat)

def compareScaled (coefficient : Nat) (tens : Int) (number : Nat) (twos : Int) : Ordering :=
  compare (coefficient * Nat.pow 10 tens.toNat * Nat.pow 2 (-twos).toNat)
    (number * Nat.pow 2 twos.toNat * Nat.pow 10 (-tens).toNat)

-- The decimals that round to the number reach half a gap to either side, ends included for an even
-- significand.
def Binary.covers (x : Binary) (coefficient : Nat) (tens : Int) : Bool :=
  let closed := x.significand % 2 == 0
  let low := compareScaled coefficient tens (4 * x.significand - if x.halfGapBelow then 1 else 2) (x.scale - 2)
  let high := compareScaled coefficient tens (4 * x.significand + 2) (x.scale - 2)
  (low == .gt || closed && low == .eq) && (high == .lt || closed && high == .eq)

def Binary.magnitude (x : Binary) : Int :=
  if 0 ≤ x.scale then digitCount (x.significand * Nat.pow 2 x.scale.toNat)
  else
    let whole := x.significand / Nat.pow 2 (-x.scale).toNat
    if whole ≠ 0 then digitCount whole
    else
      let zeros := (List.range 400).find? fun n =>
        Nat.pow 2 (-x.scale).toNat ≤ x.significand * Nat.pow 10 (n + 1)
      Int.negOfNat (zeros.getD 400)

def Binary.below (x : Binary) (tens : Int) : Nat :=
  x.significand * Nat.pow 2 x.scale.toNat * Nat.pow 10 (-tens).toNat /
    (Nat.pow 10 tens.toNat * Nat.pow 2 (-x.scale).toNat)

def Binary.onGrid? (x : Binary) (tens : Int) : Option (Nat × Int) :=
  let low := x.below tens
  match x.covers low tens, x.covers (low + 1) tens with
  | true, true =>
    if compareScaled (2 * low + 1) tens (2 * x.significand) x.scale == .gt then some (low, tens)
    else some (low + 1, tens)
  | true, false => some (low, tens)
  | false, true => some (low + 1, tens)
  | false, false => none

-- The fewest digits that round to the number again; of two the nearer, and the greater at equal distance. The
-- search starts at the coarsest grid, where a number just below a power of ten finds that power.
def Binary.shortest (x : Binary) : Nat × Int :=
  let found := (List.range 18).findSome? fun n => x.onGrid? (x.magnitude - (n : Nat))
  found.getD (x.below (x.magnitude - 17), x.magnitude - 17)

def positional (coefficient : Nat) (tens : Int) : String :=
  if 0 ≤ tens then toString (coefficient * Nat.pow 10 tens.toNat) ++ ".0"
  else
    let places := (-tens).toNat
    let digits := Nat.toDigits 10 coefficient
    let padded := List.replicate (places + 1 - digits.length) '0' ++ digits
    String.ofList (padded.take (padded.length - places) ++ '.' :: padded.drop (padded.length - places))

def Binary.text (x : Binary) : String :=
  if x.significand = 0 then "0.0"
  else positional x.shortest.1 x.shortest.2

end TestbedWatchdog.Decimal
