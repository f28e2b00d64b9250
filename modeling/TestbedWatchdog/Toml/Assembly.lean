import TestbedWatchdog.Toml.Value

namespace TestbedWatchdog.Toml

abbrev Path := List String

-- How a table came to be decides what may still be added to it: a header may open a table once, and dotted keys
-- may not reach into a table that has a header.
inductive Origin where
  | header
  -- only named on the way to a longer header
  | implied
  | dotted
deriving DecidableEq

inductive Node where
  | leaf (value : Value)
  | table (origin : Origin) (fields : List (String × Node))
  | elements (items : List (List (String × Node)))

abbrev Nodes := List (String × Node)

namespace Nodes

def find? (nodes : Nodes) (name : String) : Option Node := nodes.lookup name

def replace (nodes : Nodes) (name : String) (node : Node) : Nodes :=
  nodes.map fun entry => if entry.1 = name then (name, node) else entry

def erase (nodes : Nodes) (name : String) : Nodes := nodes.filter fun entry => entry.1 ≠ name

def append (nodes : Nodes) (name : String) (node : Node) : Nodes := nodes ++ [(name, node)]

-- Puts a value under a dotted key. The last table on the way must be one that only dotted keys name.
def put : Nodes → Path → Value → Option Nodes
  | _, [], _ => none
  | nodes, [name], value =>
    if (nodes.find? name).isSome then none else some (nodes.append name (.leaf value))
  | nodes, name :: next :: rest, value =>
    match nodes.find? name with
    | none => (put [] (next :: rest) value).map fun inner => nodes.append name (.table .dotted inner)
    | some (.table origin inner) =>
      if origin = .header ∨ (origin = .implied ∧ rest = []) then none
      else (put inner (next :: rest) value).map fun changed => nodes.replace name (.table origin changed)
    | some (.elements items) =>
      match items.getLast? with
      | none => none
      | some inner =>
        if rest = [] then none
        else
          (put inner (next :: rest) value).map fun changed =>
            nodes.replace name (.elements (items.dropLast ++ [changed]))
    | some (.leaf _) => none

def putAll (nodes : Nodes) (pairs : List (Path × Value)) : Option Nodes :=
  pairs.foldlM (fun found pair => found.put pair.1 pair.2) nodes

def ofPairs? (pairs : List (Path × Value)) : Option Nodes := putAll [] pairs

-- Changes the table that a path leads to; tables on the way that are missing are implied, and in an
-- array of tables the way goes through its last element.
def within : Path → (Nodes → Option Nodes) → Nodes → Option Nodes
  | [], change, nodes => change nodes
  | name :: rest, change, nodes =>
    match nodes.find? name with
    | none => (within rest change []).map fun inner => nodes.append name (.table .implied inner)
    | some (.table origin inner) =>
      (within rest change inner).map fun changed => nodes.replace name (.table origin changed)
    | some (.elements items) =>
      match items.getLast? with
      | none => none
      | some inner =>
        (within rest change inner).map fun changed =>
          nodes.replace name (.elements (items.dropLast ++ [changed]))
    | some (.leaf _) => none

-- A header takes over a table that was only implied so far, and the table moves to the header's place
-- in the document.
def openTable (name : String) (pairs : List (Path × Value)) (nodes : Nodes) : Option Nodes :=
  match nodes.find? name with
  | none => (putAll [] pairs).map fun fields => nodes.append name (.table .header fields)
  | some (.table .implied inner) =>
    (putAll inner pairs).map fun fields => (nodes.erase name).append name (.table .header fields)
  | some _ => none

def addElement (name : String) (pairs : List (Path × Value)) (nodes : Nodes) : Option Nodes :=
  match nodes.find? name with
  | none => (putAll [] pairs).map fun fields => nodes.append name (.elements [fields])
  | some (.elements items) =>
    (putAll [] pairs).map fun fields => nodes.replace name (.elements (items ++ [fields]))
  | some _ => none

mutual

def fields : Nodes → Fields
  | [] => []
  | (name, node) :: rest => (name, valueOf node) :: fields rest

def valueOf : Node → Value
  | .leaf value => value
  | .table _ inner => .table (fields inner)
  | .elements items => .array (tables items)

def tables : List Nodes → List Value
  | [] => []
  | inner :: rest => .table (fields inner) :: tables rest

end

end Nodes

end TestbedWatchdog.Toml
