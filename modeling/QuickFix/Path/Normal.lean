import QuickFix.Path.Basic

/-!
Normal paths: no dots, and double dots only in front of a relative path. Normalization looks at the
spelling alone: a double dot takes away the name before it, stays where a relative path begins, and
vanishes at the root.
-/

namespace QuickFix.Path

/-- Puts one more component behind normal components, given last one first. -/
def foldComponent (backwards : List Component) (next : Component) : List Component :=
  match next with
  | .current => backwards
  | .parent =>
    match backwards with
    | .name _ :: before => before
    | [] => [.parent]
    | .root :: _ => backwards
    | _ => .parent :: backwards
  | .root => [.root]
  | .name n => .name n :: backwards

/-- The components of the normal form. -/
def normalComponents (components : List Component) : List Component :=
  (components.foldl foldComponent []).reverse

/-- Writes components as a path: a slash stands between any two, but not behind the root. -/
def ofComponents : List Component → Path
  | .root :: rest => ⟨"/" ++ "/".intercalate (rest.map Component.text)⟩
  | components => ⟨"/".intercalate (components.map Component.text)⟩

def normalize (path : Path) : Path := ofComponents (normalComponents path.components)

end QuickFix.Path
