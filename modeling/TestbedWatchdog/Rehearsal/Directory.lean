import TestbedWatchdog.Config.Loading

namespace TestbedWatchdog.Rehearsal

inductive Entry where
  | file (bytes : List UInt8)
  | directory
deriving DecidableEq

-- Of all that lies outside only the directories on the way up are there.
structure Directory where
  entries : List (String × Entry)
deriving DecidableEq

inductive Place where
  | here
  | below
  | above
  | file (bytes : List UInt8)
deriving DecidableEq

namespace Directory

def walk (directory : Directory) (place : Place) (name : String) : Except SystemFault Place :=
  match place with
  | .file _ => .error .notADirectory
  | place =>
    if name = "" ∨ name = "." then .ok place
    else if name = ".." then .ok (if place = .below then .here else .above)
    else if place = .here then
      match directory.entries.lookup name with
      | some (.file bytes) => .ok (.file bytes)
      | some .directory => .ok .below
      | none => .error .notFound
    else .error .notFound

def find (directory : Directory) (path : String) : Except SystemFault Place :=
  if path.toList.contains '\x00' then .error .nulInPath
  else
    match path.toList with
    | [] => .error .notFound
    | first :: _ => (path.splitOn "/").foldlM directory.walk (if first = '/' then .above else .here)

def isThere (directory : Directory) (path : String) : Bool :=
  match directory.find path with
  | .ok _ => true
  | .error _ => false

def content (directory : Directory) (path : String) : Except SystemFault (List UInt8) :=
  match directory.find path with
  | .error cause => .error cause
  | .ok (.file bytes) => .ok bytes
  | .ok _ => .error .isADirectory

-- A fault is told without its place in the text.
def files (directory : Directory) : Files :=
  ⟨directory.isThere, directory.content, fun _ mismatch? => mismatch?.elim "" Toml.Mismatch.message⟩

end Directory

end TestbedWatchdog.Rehearsal
