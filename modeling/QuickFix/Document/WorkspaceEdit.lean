import QuickFix.Document.Edit
import QuickFix.Path.Basic

/-!
Edits of several documents, kept in the order of their paths. Two spellings of one path mean the
same document; the first one used is kept.
-/

namespace QuickFix

/-- The edits of one document, in the order they were queued. -/
structure FileEdits where
  path : Path
  edits : List TextEdit
  deriving DecidableEq, Repr, Inhabited

/-- Edits of several documents. -/
structure WorkspaceEdit where
  changes : PathMap FileEdits := ∅

namespace WorkspaceEdit

def empty : WorkspaceEdit := {}

instance : Inhabited WorkspaceEdit := ⟨empty⟩

/-- Queues an edit behind those of its document. -/
def push (edit : WorkspaceEdit) (path : Path) (new : TextEdit) : WorkspaceEdit where
  changes := edit.changes.alter path.components fun
    | none => some ⟨path, [new]⟩
    | some file => some { file with edits := file.edits ++ [new] }

def insert (edit : WorkspaceEdit) (path : Path) (position : Position) (text : String) :
    WorkspaceEdit :=
  edit.push path (.insert position text)

def replace (edit : WorkspaceEdit) (path : Path) (range : Range) (text : String) : WorkspaceEdit :=
  edit.push path (.replace range text)

/-- The documents with their edits, in the order of paths. -/
def files (edit : WorkspaceEdit) : List FileEdits := edit.changes.values

def paths (edit : WorkspaceEdit) : List Path := edit.files.map FileEdits.path

def isEmpty (edit : WorkspaceEdit) : Bool := edit.files.all fun file => file.edits.isEmpty

def count (edit : WorkspaceEdit) : Nat := (edit.files.flatMap FileEdits.edits).length

def editsFor (edit : WorkspaceEdit) (path : Path) : List TextEdit :=
  match edit.changes[path.components]? with
  | some file => file.edits
  | none => []

end WorkspaceEdit

end QuickFix
