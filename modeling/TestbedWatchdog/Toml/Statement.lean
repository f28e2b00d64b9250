import TestbedWatchdog.Toml.Moment
import TestbedWatchdog.Toml.Number
import TestbedWatchdog.Toml.Assembly

namespace TestbedWatchdog.Toml

inductive Header where
  | document
  | table (path : Path)
  | element (path : Path)

inductive Statement where
  | header (header : Header)
  | pair (path : Path) (value : Value)

def isBare (c : Char) : Bool := c.isAlphanum || c == '-' || c == '_'

def bareKey : Reader (List Char) := do
  let first ← Reader.take isBare
  let rest ← Reader.takeAll isBare
  pure (first :: rest)

def simpleKey : Reader String := do
  gap
  let found ← basicText <|> literalText <|> bareKey
  gap
  pure (String.ofList found)

def key : Reader Path := do
  let found ← Reader.separated simpleKey (Reader.expect ['.'])
  if found.length < 80 then pure found else failure

-- Gaps, newlines and comments, as they may stand between the elements of an array. The flag tells that
-- a comment is open.
def afterFiller : Bool → List Char → List Char
  | _, '\n' :: rest => afterFiller false rest
  | _, '\r' :: '\n' :: rest => afterFiller false rest
  | true, c :: rest => if isPlain c then afterFiller true rest else c :: rest
  | false, '#' :: rest => afterFiller true rest
  | false, c :: rest => if isGap c then afterFiller false rest else c :: rest
  | _, [] => []

def filler : Reader Unit := fun text => some ((), afterFiller false text)

def array (item : Reader Value) : Reader Value := do
  Reader.expect ['[']
  let items ← Reader.optional do
    let found ← Reader.separated (do filler; let value ← item; filler; pure value) (Reader.expect [','])
    let _ ← Reader.optional (Reader.expect [','])
    pure found
  filler
  Reader.expect [']']
  pure (.array (items.getD []))

def keyValue (item : Reader Value) : Reader (Path × Value) := do
  let path ← key
  Reader.expect ['=']
  gap
  let value ← item
  pure (path, value)

def inlineTable (item : Reader Value) : Reader Value := do
  Reader.expect ['\x7b']
  let pairs ← Reader.optional do
    Reader.separated (do let pair ← keyValue item; gap; pure pair) (Reader.expect [','])
  gap
  Reader.expect ['\x7d']
  match Nodes.ofPairs? (pairs.getD []) with
  | some nodes => pure (.table nodes.fields)
  | none => failure

def scalar : Reader Value :=
  (do let found ← anyText; pure (.text (String.ofList found))) <|>
  (do moment; pure .moment) <|>
  (do let found ← real; pure (.real found)) <|>
  (do let found ← integer; pure (.integer found)) <|>
  (do Reader.expect "true".toList; pure (.boolean true)) <|>
  (do Reader.expect "false".toList; pure (.boolean false))

-- The argument says how many arrays and inline tables may still be opened.
def value : Nat → Reader Value
  | 0 => scalar
  | depth + 1 => array (value depth) <|> inlineTable (value depth) <|> scalar

def greatestDepth : Nat := 79

def lineRest : Reader Unit := do
  gap
  let _ ← Reader.optional comment
  lineEnd

def elementHeader : Reader Statement := do
  Reader.expect ['[', '[']
  let path ← key
  Reader.expect [']', ']']
  pure (.header (.element path))

def tableHeader : Reader Statement := do
  Reader.expect ['[']
  let path ← key
  Reader.expect [']']
  pure (.header (.table path))

def pair : Reader Statement := do
  let (path, found) ← keyValue (value greatestDepth)
  pure (.pair path found)

def statement : Reader Statement := do
  let found ← elementHeader <|> tableHeader <|> pair
  lineRest
  pure found

def blankLine : Reader Unit := newline <|> do comment; lineEnd

def line : Reader (Option Statement) := do
  let found ← (do blankLine; pure none) <|> (do let found ← statement; pure (some found))
  gap
  pure found

-- The whole text, behind a byte order mark if it has one.
def statements? (text : List Char) : Option (List Statement) :=
  let body := if text.head? = some '\uFEFF' then text.drop 1 else text
  match (do gap; Reader.many line : Reader (List (Option Statement))) body with
  | some (found, []) => some (found.filterMap id)
  | _ => none

end TestbedWatchdog.Toml
