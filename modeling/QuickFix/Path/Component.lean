import Std.Data.TreeMap

/-!
The steps of a path and their order: the root comes first, then the dots, then the names by their
characters. The order is total, and two components compare as equal only if they are equal, so
component lists can be the keys of an ordered map.
-/

namespace QuickFix

/-- One step of a path. -/
inductive Component where
  /-- The root directory. -/
  | root
  /-- The directory the path is relative to, where it is written in front. -/
  | current
  /-- The directory above. -/
  | parent
  /-- A file or directory in the one before. -/
  | name (name : String)
  deriving DecidableEq, Repr, Inhabited

namespace Component

def text : Component → String
  | root => "/"
  | current => "."
  | parent => ".."
  | name n => n

/-- The rank of the kind of a component: the root, the dots and then the names. -/
def rank : Component → Nat
  | root => 0
  | current => 1
  | parent => 2
  | name _ => 3

/-- The name of a component, empty for those that have none. -/
def label : Component → String
  | name n => n
  | _ => ""

def isName : Component → Bool
  | name _ => true
  | _ => false

instance : Ord Component := ⟨compareLex (compareOn rank) (compareOn label)⟩

instance : Std.TransOrd Component :=
  inferInstanceAs (Std.TransCmp (compareLex (compareOn rank) (compareOn label)))

instance : Std.LawfulEqOrd Component where
  eq_of_compare {a b} h := by
    have hl : compareLex (compareOn rank) (compareOn label) a b = .eq := h
    rw [compareLex_eq_eq] at hl
    have hr : a.rank = b.rank := Std.LawfulEqOrd.eq_of_compare hl.1
    have hn : a.label = b.label := Std.LawfulEqOrd.eq_of_compare hl.2
    cases a <;> cases b <;> simp_all [rank, label]

end Component

/-- A map whose keys are the components of paths, in the order of paths. -/
abbrev PathMap (α : Type) := Std.TreeMap (List Component) α

end QuickFix
