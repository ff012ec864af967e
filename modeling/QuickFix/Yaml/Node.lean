import QuickFix.Yaml.Token

/-!
The tree of a document. Anchors are numbers here: an anchor takes the number of different names that
the document has seen before, and an alias stands for the number that its name has at that place.
-/

namespace QuickFix.Yaml

/-- What may stand in front of a node. -/
structure Properties where
  anchor : Option Nat := none
  tag : Option Tag := none
  deriving DecidableEq, Repr

instance : Inhabited Properties := ⟨{}⟩

/-- A node of a document. -/
inductive Node where
  | reference (anchor : Nat)
  | scalar (properties : Properties) (text : List Char) (plain : Bool)
  | sequence (properties : Properties) (items : List Node)
  | mapping (properties : Properties) (entries : List (Node × Node))
  deriving Repr, Inhabited

namespace Node

/-- What stands where a node is missing. -/
def missing : Node := scalar {} [] true

mutual

/-- The size of a tree: a leaf counts once, and a list or mapping twice, for its start and its end.
-/
def size : Node → Nat
  | reference _ => 1
  | scalar _ _ _ => 1
  | sequence _ items => sizeOfItems items + 2
  | mapping _ entries => sizeOfEntries entries + 2

def sizeOfItems : List Node → Nat
  | [] => 0
  | node :: rest => node.size + sizeOfItems rest

def sizeOfEntries : List (Node × Node) → Nat
  | [] => 0
  | (key, value) :: rest => key.size + value.size + sizeOfEntries rest

end

/-- The number of a node with the node, if it has one. -/
def own (properties : Properties) (node : Node) : List (Nat × Node) :=
  match properties.anchor with
  | some n => [(n, node)]
  | none => []

mutual

/-- The nodes with anchors, in the order in which they begin. -/
def anchored : Node → List (Nat × Node)
  | reference _ => []
  | scalar p text plain => own p (scalar p text plain)
  | sequence p items => own p (sequence p items) ++ anchoredItems items
  | mapping p entries => own p (mapping p entries) ++ anchoredEntries entries

def anchoredItems : List Node → List (Nat × Node)
  | [] => []
  | node :: rest => node.anchored ++ anchoredItems rest

def anchoredEntries : List (Node × Node) → List (Nat × Node)
  | [] => []
  | (key, value) :: rest => key.anchored ++ value.anchored ++ anchoredEntries rest

end

end Node

end QuickFix.Yaml
