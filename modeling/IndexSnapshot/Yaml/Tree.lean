/-
# IndexSnapshot.Yaml.Tree -- documents with the meaning of their scalars

In the tree of a document every scalar has its value, or the fault that it has none.  An
entry of a map whose key is `<<` stands for the entries of another map, or of several
maps: they come first in the map, and entries with the same keys go before them.

A document is put together from the outside to the inside: all that lies directly in a
collection is looked at before what lies deeper.  So of several faults the one that is
least deep counts, and of equally deep ones the first.

* `Node.tree` is the tree of a node, `Tree.value` its value or its fault.
-/
import IndexSnapshot.Value.Basic
import IndexSnapshot.Yaml.Node
import IndexSnapshot.Yaml.Scalar

namespace IndexSnapshot.Yaml

set_option autoImplicit false

/-- A node whose scalars have values. -/
inductive Tree where
  | scalar (value : Value)
  | faulty (fault : Fault)
  | list (items : List Tree)
  | map (entries : List (Tree × Tree))
  /-- A map that should take over entries from something else than maps. -/
  | mergeFault

/-! ## From nodes -/

/-- The key of entries that are taken over. -/
def mergeMark : String := "<<"

/-- The mark that stands for the value of a map, and as a key for nothing but its text. -/
def valueMark : String := "="

/-- Whether a node is the key of entries that are taken over. -/
def Node.isMergeKey : Node → Bool
  | .scalar text true => text == mergeMark
  | _ => false

/-- The tree of a scalar. -/
def scalarTree (text : String) (isPlain : Bool) : Tree :=
  if !isPlain then .scalar (.text text)
  else if text = mergeMark ∨ text = valueMark then .faulty .malformed
  else
    match plainValue text with
    | .ok value => .scalar value
    | .error fault => .faulty (.scalar fault)

/-- The tree of a key. -/
def keyTree (key : Node) (tree : Tree) : Tree :=
  match key with
  | .scalar text true => if text = valueMark then .scalar (.text text) else tree
  | _ => tree

/-- The entries of a map. -/
def Tree.entries? : Tree → Option (List (Tree × Tree))
  | .map entries => some entries
  | _ => none

/-- The entries that a map takes over: those of another map, or of the maps of a list, the
last one first. -/
def Tree.mergedEntries? : Tree → Option (List (Tree × Tree))
  | .map entries => some entries
  | .list items => (items.reverse.mapM Tree.entries?).map List.flatten
  | _ => none

/-- The map of entries of its own and entries that it takes over. -/
def mapTree (merged : Option (List (Tree × Tree))) (own : List (Tree × Tree)) : Tree :=
  match merged with
  | some merged => .map (merged ++ own)
  | none => .mergeFault

mutual

/-- The tree of a node. -/
def Node.tree : Node → Tree
  | .scalar text isPlain => scalarTree text isPlain
  | .list items => .list (Node.trees items)
  | .map entries =>
      let (merged, own) := Node.entryTrees entries
      mapTree merged own

/-- The trees of nodes. -/
def Node.trees : List Node → List Tree
  | [] => []
  | node :: rest => node.tree :: Node.trees rest

/-- The trees of entries: of those that are taken over, and of the others. -/
def Node.entryTrees :
    List (Node × Node) → Option (List (Tree × Tree)) × List (Tree × Tree)
  | [] => (some [], [])
  | (key, value) :: rest =>
      let (merged, own) := Node.entryTrees rest
      if key.isMergeKey then
        ((do return (← value.tree.mergedEntries?) ++ (← merged)), own)
      else (merged, (keyTree key key.tree, value.tree) :: own)

end

namespace Tree

/-! ## Faults -/

/-- The fault of what is no collection. -/
def fault? : Tree → Option Fault
  | .faulty fault => some fault
  | _ => none

/-- Whether a tree can be a key. -/
def isScalar : Tree → Bool
  | .scalar _ => true
  | .faulty _ => true
  | _ => false

/-- The faults that show in the entries of a map: of a key, of its kind, and of its value. -/
def entryFaults (entry : Tree × Tree) : List Fault :=
  entry.1.fault?.toList ++ (if entry.1.isScalar then [] else [.malformed])
    ++ entry.2.fault?.toList

/-- Lists joined level by level. -/
def joinLevels : List (List Fault) → List (List Fault) → List (List Fault)
  | [], levels => levels
  | levels, [] => levels
  | first :: rest, second :: more => (first ++ second) :: joinLevels rest more

mutual

/-- The faults within a collection, by their depth. -/
def levels : Tree → List (List Fault)
  | .scalar _ => []
  | .faulty _ => []
  | .list items => items.filterMap fault? :: levelsOfItems items
  | .map entries => entries.flatMap entryFaults :: levelsOfEntries entries
  | .mergeFault => [[.malformed]]

/-- The faults within the collections of a list, by their depth. -/
def levelsOfItems : List Tree → List (List Fault)
  | [] => []
  | tree :: rest => joinLevels (levels tree) (levelsOfItems rest)

/-- The faults within the collections of entries, by their depth. -/
def levelsOfEntries : List (Tree × Tree) → List (List Fault)
  | [] => []
  | (key, value) :: rest =>
      joinLevels (joinLevels (levels key) (levels value)) (levelsOfEntries rest)

end

/-- The fault that counts. -/
def firstFault? (tree : Tree) : Option Fault :=
  (tree.fault?.toList ++ tree.levels.flatten).head?

/-! ## Values -/

/-- Whether a value is the one that is not a number, which as a key equals itself. -/
def isNotANumber : Value → Bool
  | .float v => v.isNaN
  | _ => false

/-- Sets the value of a key. -/
def putEntry (entries : List (Value × Value)) (entry : Value × Value) :
    List (Value × Value) :=
  if isNotANumber entry.1 && entries.any (fun (key, _) => isNotANumber key) then
    entries.map fun (key, value) => (key, if isNotANumber key then entry.2 else value)
  else Value.putEntry entry.1 entry.2 entries

mutual

/-- The value of a tree without faults. -/
def build : Tree → Value
  | .scalar value => value
  | .list items => .list (buildAll items)
  | .map entries => .map ((buildEntries entries).foldl putEntry [])
  | _ => .none

/-- The values of trees. -/
def buildAll : List Tree → List Value
  | [] => []
  | tree :: rest => build tree :: buildAll rest

/-- The values of entries. -/
def buildEntries : List (Tree × Tree) → List (Value × Value)
  | [] => []
  | (key, value) :: rest => (build key, build value) :: buildEntries rest

end

/-- The value of a tree. -/
def value (tree : Tree) : Except Fault Value :=
  match tree.firstFault? with
  | some fault => .error fault
  | none => .ok tree.build

end Tree

end IndexSnapshot.Yaml
