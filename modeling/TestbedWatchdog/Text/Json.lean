import TestbedWatchdog.Text.Quoted

namespace TestbedWatchdog

inductive Json where
  | text (content : String)
  | array (items : List Json)
  | object (fields : List (String × Json))

namespace Json

def twoDigits (n : Nat) : List Char := if n < 16 then '0' :: Text.hexNumber n else Text.hexNumber n

-- Only quotes, backslashes and the controls below a blank are escaped.
def escaped (c : Char) : List Char :=
  match c with
  | '"' => ['\\', '"']
  | '\\' => ['\\', '\\']
  | '\x08' => ['\\', 'b']
  | '\x0c' => ['\\', 'f']
  | '\n' => ['\\', 'n']
  | '\r' => ['\\', 'r']
  | '\t' => ['\\', 't']
  | c => if c.toNat < 32 then ['\\', 'u', '0', '0'] ++ twoDigits c.toNat else [c]

def literal (content : String) : String :=
  String.ofList ('"' :: content.toList.flatMap escaped ++ ['"'])

def margin (depth : Nat) : String := String.ofList (List.replicate (2 * depth) ' ')

-- Items between brackets; the closing bracket stands at the depth of the opening one.
def bracketed (first last : String) (depth : Nat) (items : List String) : String :=
  if items.isEmpty then first ++ last
  else
    first ++ "\n" ++ ",\n".intercalate (items.map (margin (depth + 1) ++ ·)) ++ "\n" ++ margin depth ++ last

mutual
def written (depth : Nat) : Json → String
  | text content => literal content
  | array items => bracketed "[" "]" depth (writtenItems (depth + 1) items)
  | object fields => bracketed "\x7b" "\x7d" depth (writtenFields (depth + 1) fields)

def writtenItems (depth : Nat) : List Json → List String
  | [] => []
  | item :: rest => written depth item :: writtenItems depth rest

def writtenFields (depth : Nat) : List (String × Json) → List String
  | [] => []
  | (name, value) :: rest => (literal name ++ ": " ++ written depth value) :: writtenFields depth rest
end

def pretty (value : Json) : String := written 0 value

end Json

end TestbedWatchdog
