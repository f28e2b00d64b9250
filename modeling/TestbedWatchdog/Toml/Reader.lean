namespace TestbedWatchdog.Toml

-- A reader takes characters from the front, or fails; where it fails nothing has been taken.
abbrev Reader (α : Type) := StateT (List Char) Option α

namespace Reader

def expect (wanted : List Char) : Reader Unit := fun text =>
  if wanted.isPrefixOf text then some ((), text.drop wanted.length) else none

def take (accept : Char → Bool) : Reader Char
  | c :: rest => if accept c then some (c, rest) else none
  | [] => none

def takeAll (accept : Char → Bool) : Reader (List Char) := fun text => some (text.span accept)

def takeExactly (accept : Char → Bool) : Nat → Reader (List Char)
  | 0 => pure []
  | n + 1 => do
    let c ← take accept
    let rest ← takeExactly accept n
    pure (c :: rest)

def optional (item : Reader α) : Reader (Option α) := fun text =>
  match item text with
  | some (found, rest) => some (some found, rest)
  | none => some (none, text)

def repeated (item : Reader α) : Nat → Reader (List α)
  | 0 => pure []
  | n + 1 => do
    match ← optional item with
    | none => pure []
    | some first =>
      let rest ← repeated item n
      pure (first :: rest)

-- The item as often as it can be read. Each takes at least one character, so the text's length bounds
-- their number.
def many (item : Reader α) : Reader (List α) := fun text => repeated item text.length text

def separated (item : Reader α) (separator : Reader Unit) : Reader (List α) := do
  let first ← item
  let rest ← many do
    separator
    item
  pure (first :: rest)

end Reader

def isDigit (c : Char) : Bool := '0' ≤ c && c ≤ '9'

def isGap (c : Char) : Bool := c == ' ' || c == '\t'

-- What may stand in a comment, and between quotes but for the quote and the escape: no control
-- character but the tab.
def isPlain (c : Char) : Bool := c == '\t' || ' ' ≤ c && c != '\x7f'

def gap : Reader Unit := do
  let _ ← Reader.takeAll isGap

def newline : Reader Unit := Reader.expect ['\n'] <|> Reader.expect ['\r', '\n']

def comment : Reader Unit := do
  Reader.expect ['#']
  let _ ← Reader.takeAll isPlain

-- A line ends at a newline or where the document ends.
def lineEnd : Reader Unit := fun text =>
  match text with
  | [] => some ((), [])
  | _ => newline text

end TestbedWatchdog.Toml
