import TestbedWatchdog.Toml.Statement

namespace TestbedWatchdog.Toml

structure Block where
  header : Header
  pairs : List (Path × Value)

-- Latest block first, and in it the latest pair first.
def group : List Block → Statement → List Block
  | block :: rest, .pair path value => { block with pairs := (path, value) :: block.pairs } :: rest
  | [], .pair path value => [⟨.document, [(path, value)]⟩]
  | blocks, .header header => ⟨header, []⟩ :: blocks

def blocks (statements : List Statement) : List Block :=
  (statements.foldl group [⟨.document, []⟩]).reverse.map fun block =>
    { block with pairs := block.pairs.reverse }

def Block.addTo (nodes : Nodes) (block : Block) : Option Nodes :=
  match block.header with
  | .document => nodes.putAll block.pairs
  | .table path => do
    let name ← path.getLast?
    nodes.within path.dropLast (Nodes.openTable name block.pairs)
  | .element path => do
    let name ← path.getLast?
    nodes.within path.dropLast (Nodes.addElement name block.pairs)

def document? (text : List Char) : Option Fields := do
  let found ← statements? text
  let nodes ← (blocks found).foldlM Block.addTo []
  pure nodes.fields

end TestbedWatchdog.Toml
