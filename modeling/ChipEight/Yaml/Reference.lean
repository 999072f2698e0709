import ChipEight.Yaml.Node

namespace ChipEight
namespace Yaml

/-!
Reading what references refer to.

A reference refers to the last node with its number, which may also come after it.  A small document
could refer to itself so often that its contents become very large, so no more than a hundred
references are followed for each part of the document.
-/

/-- The nodes of a document that have numbers, the last first. -/
abbrev Anchors := List (Nat × Node)

/-- Reading from a document; the state is the number of references that may still be followed. -/
abbrev Reader := ReaderT Anchors (StateT Nat Option)

/-- The node that is meant by a node: itself, unless it is a reference. -/
def Node.target (node : Node) : Reader Node :=
  match node with
  | .reference number => do
      let left ← get
      guard (left ≠ 0)
      set (left - 1)
      ((← read).lookup number).getM
  | node => return node

/-- The references that may be followed for each part of a document. -/
def referencesPerPart : Nat := 100

def Reader.run? {α : Type} (reader : Reader α) (root : Node) : Option α :=
  let anchors := (root.parts.filterMap Node.anchor?).reverse
  let extent := root.parts.foldl (fun extent node => extent + node.weight) 0
  (StateT.run (ReaderT.run reader anchors) (referencesPerPart * extent)).map Prod.fst

end Yaml
end ChipEight
