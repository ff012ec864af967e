import QuickFix.Diagnostic
import QuickFix.Locate.Basic

/-!
What templates are filled from: the evidence that made a rule match, the tables of the settings, and
the names that come from the path of a document.
-/

namespace QuickFix

/-- The tables of the settings: texts by key, and for each group of diagnostics texts by key. -/
structure Tables where
  lookup : List (String × String) := []
  diagLookup : List (String × List (String × String)) := []
  deriving DecidableEq, Repr

instance : Inhabited Tables := ⟨{}⟩

namespace Tables

def text? (t : Tables) (key : String) : Option String := t.lookup.lookup key

def group? (t : Tables) (group : String) : Option (List (String × String)) :=
  t.diagLookup.lookup group

end Tables

/-- A diagnostic whose message matched, with the match. -/
structure DiagnosticMatch where
  captured : Captured
  diagnostic : Diagnostic
  deriving DecidableEq, Repr

/-- The evidence for a rule: from a diagnostic if the rule asks for one, and from around the cursor
if it asks for that. -/
structure Evidence where
  diagnostic : Option DiagnosticMatch := none
  cursor : Option Enclosing := none
  deriving DecidableEq, Repr

instance : Inhabited Evidence := ⟨{}⟩

/-- Names that come from the path of a document. -/
structure FileVariables where
  /-- The file name without its extension. -/
  stem : String
  /-- The file name. -/
  name : String
  /-- The extension with its dot, empty if there is none or nothing behind the dot. -/
  extension : String
  /-- The directory. -/
  directory : String
  deriving DecidableEq, Repr

def FileVariables.ofPath (path : Path) : FileVariables where
  stem := path.fileStem?.getD ""
  name := path.fileName?.getD ""
  extension :=
    match path.extension? with
    | none => ""
    | some "" => ""
    | some e => "." ++ e
  directory := (path.parent?.map Path.text).getD ""

end QuickFix
