import TestbedWatchdog.Text.Blank
import TestbedWatchdog.Text.Lines

namespace TestbedWatchdog

structure Session where
  project : String
  experiment : String
  materialization : String
deriving DecidableEq

namespace Session

def qualify (session : Session) (host : String) : String :=
  host ++ "." ++ session.materialization ++ "." ++ session.experiment ++ "." ++ session.project

def display (session : Session) : String :=
  session.project ++ " " ++ session.experiment ++ " " ++ session.materialization

def label : List Char := "Materialization:".toList

def field? (text : List Char) : Option (List Char × List Char) :=
  match Text.blanks? text with
  | none => none
  | some rest =>
    match Text.word rest with
    | ([], _) => none
    | found => some found

-- The label stands at the start of the line; what follows the third word does not matter.
def ofLine? (line : List Char) : Option Session :=
  if label.isPrefixOf line then
    match field? (line.drop label.length) with
    | none => none
    | some (project, rest) =>
      match field? rest with
      | none => none
      | some (experiment, rest) =>
        match field? rest with
        | none => none
        | some (materialization, _) =>
          some ⟨String.ofList project, String.ofList experiment, String.ofList materialization⟩
  else none

def parse? (output : String) : Option Session := (Text.lines output.toList).findSome? ofLine?

end Session

end TestbedWatchdog
