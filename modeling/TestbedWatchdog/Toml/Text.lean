import TestbedWatchdog.Toml.Reader

namespace TestbedWatchdog.Toml

abbrev Read (α : Type) := Option (α × List Char)

def hexValue? (c : Char) : Option Nat :=
  if isDigit c then some (c.toNat - '0'.toNat)
  else if 'a' ≤ c && c ≤ 'f' then some (c.toNat - 'a'.toNat + 10)
  else if 'A' ≤ c && c ≤ 'F' then some (c.toNat - 'A'.toNat + 10)
  else none

-- The character with a number given in hexadecimal digits; surrogates and numbers past the last code
-- point name none.
def numbered? (digits : List Char) : Option Char := do
  let values ← digits.mapM hexValue?
  let code := values.foldl (fun total digit => total * 16 + digit) 0
  if code.isValidChar then some (Char.ofNat code) else none

def escaped? : Char → Option Char
  | 'b' => some '\x08'
  | 't' => some '\t'
  | 'n' => some '\n'
  | 'f' => some '\x0c'
  | 'r' => some '\r'
  | '"' => some '"'
  | '\\' => some '\\'
  | _ => none

def before (c : Char) (rest : Read (List Char)) : Read (List Char) := rest.map fun found => (c :: found.1, found.2)

def basicBody : List Char → Read (List Char)
  | '"' :: rest => some ([], rest)
  | '\\' :: 'u' :: a :: b :: c :: d :: rest =>
    (numbered? [a, b, c, d]).bind fun found => before found (basicBody rest)
  | '\\' :: 'U' :: a :: b :: c :: d :: e :: f :: g :: h :: rest =>
    (numbered? [a, b, c, d, e, f, g, h]).bind fun found => before found (basicBody rest)
  | '\\' :: c :: rest => (escaped? c).bind fun found => before found (basicBody rest)
  | c :: rest => if isPlain c && c != '\\' then before c (basicBody rest) else none
  | [] => none

def literalBody : List Char → Read (List Char)
  | '\'' :: rest => some ([], rest)
  | c :: rest => if isPlain c then before c (literalBody rest) else none
  | [] => none

def lineEnds (text : List Char) : Bool :=
  match text.dropWhile isGap with
  | '\n' :: _ => true
  | '\r' :: '\n' :: _ => true
  | _ => false

-- A closing delimiter may have up to two quotes of the text just before it. Behind a backslash that
-- ends its line, gaps and newlines are skipped.
def longBasicBody : Bool → List Char → Read (List Char)
  | true, ' ' :: rest => longBasicBody true rest
  | true, '\t' :: rest => longBasicBody true rest
  | true, '\n' :: rest => longBasicBody true rest
  | true, '\r' :: '\n' :: rest => longBasicBody true rest
  | _, '"' :: '"' :: '"' :: '"' :: '"' :: rest => some (['"', '"'], rest)
  | _, '"' :: '"' :: '"' :: '"' :: rest => some (['"'], rest)
  | _, '"' :: '"' :: '"' :: rest => some ([], rest)
  | _, '"' :: rest => before '"' (longBasicBody false rest)
  | _, '\\' :: 'u' :: a :: b :: c :: d :: rest =>
    (numbered? [a, b, c, d]).bind fun found => before found (longBasicBody false rest)
  | _, '\\' :: 'U' :: a :: b :: c :: d :: e :: f :: g :: h :: rest =>
    (numbered? [a, b, c, d, e, f, g, h]).bind fun found => before found (longBasicBody false rest)
  | _, '\\' :: c :: rest =>
    match escaped? c with
    | some found => before found (longBasicBody false rest)
    | none => if lineEnds (c :: rest) then longBasicBody true (c :: rest) else none
  | _, '\r' :: '\n' :: rest => before '\n' (longBasicBody false rest)
  | _, '\n' :: rest => before '\n' (longBasicBody false rest)
  | _, c :: rest => if isPlain c && c != '\\' then before c (longBasicBody false rest) else none
  | _, [] => none

def longLiteralBody : List Char → Read (List Char)
  | '\'' :: '\'' :: '\'' :: '\'' :: '\'' :: rest => some (['\'', '\''], rest)
  | '\'' :: '\'' :: '\'' :: '\'' :: rest => some (['\''], rest)
  | '\'' :: '\'' :: '\'' :: rest => some ([], rest)
  | '\r' :: '\n' :: rest => before '\n' (longLiteralBody rest)
  | '\n' :: rest => before '\n' (longLiteralBody rest)
  | c :: rest => if isPlain c then before c (longLiteralBody rest) else none
  | [] => none

-- A newline right behind the opening delimiter is not part of the text.
def afterNewline : List Char → List Char
  | '\n' :: rest => rest
  | '\r' :: '\n' :: rest => rest
  | text => text

def basicText : Reader (List Char)
  | '"' :: rest => basicBody rest
  | _ => none

def literalText : Reader (List Char)
  | '\'' :: rest => literalBody rest
  | _ => none

def anyText : Reader (List Char)
  | '"' :: '"' :: '"' :: rest => longBasicBody false (afterNewline rest)
  | '\'' :: '\'' :: '\'' :: rest => longLiteralBody (afterNewline rest)
  | '"' :: rest => basicBody rest
  | '\'' :: rest => literalBody rest
  | _ => none

end TestbedWatchdog.Toml
