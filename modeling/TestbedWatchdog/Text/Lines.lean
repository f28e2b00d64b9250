namespace TestbedWatchdog.Text

-- A carriage return just before a newline goes with it. Text behind the last newline is a line of its own and
-- keeps all its characters; nothing behind it is no line.
def lines : List Char → List (List Char)
  | [] => []
  | '\n' :: rest => [] :: lines rest
  | '\r' :: '\n' :: rest => [] :: lines rest
  | c :: rest =>
    match lines rest with
    | [] => [[c]]
    | line :: more => (c :: line) :: more

end TestbedWatchdog.Text
