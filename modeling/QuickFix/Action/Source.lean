import QuickFix.Action.Basic
import QuickFix.Path.Normal

/-!
What resolution reads: the active document, the open documents and the folders of the workspace. A
file reference is a path from the directory of the active document, or with a slash in front from
the folder of the workspace that holds it.
-/

namespace QuickFix

/-- The documents of an editor, as far as resolution reads them. -/
structure DocumentSource where
  active : Option Document
  opened : List Document
  /-- The open document at a path. -/
  find? : Path → Option Document
  /-- The folder of the workspace that holds a path. -/
  root? : Path → Option Path

namespace DocumentSource

/-- The first of the open documents at a path. -/
def scan (opened : List Document) (path : Path) : Option Document :=
  opened.find? fun d => d.path.components = path.components

/-- The source that looks for documents among those that are open, one after the other. -/
def scanning (source : DocumentSource) : DocumentSource := { source with find? := scan source.opened }

/-- The directory of a path; the empty path if it has none. -/
def directory (path : Path) : Path := path.parent?.getD ⟨""⟩

def reference (source : DocumentSource) (active : Document) (reference : String) :
    Except ResolveError Path :=
  match reference.toList with
  | '/' :: rooted =>
    match source.root? active.path with
    | some root => .ok (root.join ⟨String.ofList rooted⟩).normalize
    | none => .error (.noWorkspaceRoot active.path)
  | _ => .ok ((directory active.path).join ⟨reference⟩).normalize

end DocumentSource

end QuickFix
