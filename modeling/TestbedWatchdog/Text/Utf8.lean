namespace TestbedWatchdog.Text.Utf8

-- What is open in the middle of a character: the ranges its next bytes must lie in, and the value so far.
structure Pending where
  next : UInt8 × UInt8
  later : List (UInt8 × UInt8)
  value : Nat

def continuation : UInt8 × UInt8 := (0x80, 0xBF)

-- Shortest forms only, no surrogates, nothing past the last code point: hence the narrow second bytes.
def opening (byte : UInt8) : Option Pending :=
  if 0xC2 ≤ byte ∧ byte ≤ 0xDF then some ⟨continuation, [], byte.toNat - 0xC0⟩
  else if byte = 0xE0 then some ⟨(0xA0, 0xBF), [continuation], 0⟩
  else if byte = 0xED then some ⟨(0x80, 0x9F), [continuation], 0xD⟩
  else if 0xE1 ≤ byte ∧ byte ≤ 0xEF then some ⟨continuation, [continuation], byte.toNat - 0xE0⟩
  else if byte = 0xF0 then some ⟨(0x90, 0xBF), [continuation, continuation], 0⟩
  else if 0xF1 ≤ byte ∧ byte ≤ 0xF3 then
    some ⟨continuation, [continuation, continuation], byte.toNat - 0xF0⟩
  else if byte = 0xF4 then some ⟨(0x80, 0x8F), [continuation, continuation], 4⟩
  else none

-- `none` stands for a sequence that was given up.
abbrev Piece := Option Char

def start (byte : UInt8) : List Piece × Option Pending :=
  if byte < 0x80 then ([some (Char.ofNat byte.toNat)], none)
  else
    match opening byte with
    | some pending => ([], some pending)
    | none => ([none], none)

-- A sequence that breaks off or goes wrong is given up at the byte that does not fit, and that byte is read
-- afresh.
def step : Option Pending → UInt8 → List Piece × Option Pending
  | none, byte => start byte
  | some pending, byte =>
    if pending.next.1 ≤ byte ∧ byte ≤ pending.next.2 then
      let value := pending.value * 64 + (byte.toNat - 0x80)
      match pending.later with
      | [] => ([some (Char.ofNat value)], none)
      | next :: later => ([], some ⟨next, later, value⟩)
    else
      let fresh := start byte
      (none :: fresh.1, fresh.2)

def pieces : Option Pending → List UInt8 → List Piece
  | none, [] => []
  | some _, [] => [none]
  | pending, byte :: rest =>
    let next := step pending byte
    next.1 ++ pieces next.2 rest

def replacement : Char := Char.ofNat 0xFFFD

def lossy (bytes : List UInt8) : List Char := (pieces none bytes).map fun piece => piece.getD replacement

def strict? (bytes : List UInt8) : Option (List Char) := (pieces none bytes).mapM id

end TestbedWatchdog.Text.Utf8
