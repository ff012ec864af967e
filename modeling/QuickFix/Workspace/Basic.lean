import QuickFix.Action.Source

/-!
A workspace in memory: open documents by path, one of them active, the folders of the workspace, and
what was said to the user. An edit is applied to all its documents or to none.
-/

namespace QuickFix

/-- Why an operation on a workspace fails. -/
inductive WorkspaceError where
  | pathAlreadyOpen (path : Path)
  | documentNotFound (path : Path)
  deriving DecidableEq, Repr

def WorkspaceError.message : WorkspaceError → String
  | pathAlreadyOpen path => "document already open: " ++ path.text
  | documentNotFound path => "document not found: " ++ path.text

structure Workspace where
  documents : PathMap Document := ∅
  /-- The path of the active document. -/
  active : Option Path := none
  roots : List Path := []
  messages : List UserMessage := []
  /-- The documents that the user was offered to open and accepted. -/
  openRequests : List Path := []
  /-- Whether the user accepts what messages offer. -/
  acceptsPrompts : Bool := false

instance : Inhabited Workspace := ⟨{}⟩

namespace Workspace

def document? (w : Workspace) (path : Path) : Option Document := w.documents[path.components]?

def isOpen (w : Workspace) (path : Path) : Bool := w.documents.contains path.components

/-- The open documents, in the order of their paths. -/
def openDocuments (w : Workspace) : List Document := w.documents.values

def activeDocument? (w : Workspace) : Option Document := w.active.bind w.document?

def size (w : Workspace) : Nat := w.documents.size

/-- Opens a document. The first one becomes active. -/
def openDocument (w : Workspace) (path : Path) (language text : String) :
    Except WorkspaceError Workspace :=
  if w.isOpen path then .error (.pathAlreadyOpen path)
  else
    .ok { w with
      documents := w.documents.insert path.components (.ofText path language text)
      active := w.active.or (some path) }

/-- Closes a document. If it was active, the first of the others becomes active. -/
def closeDocument (w : Workspace) (path : Path) : Except WorkspaceError Workspace :=
  if w.isOpen path then
    let documents := w.documents.erase path.components
    let wasActive := w.active.any fun p => p.components = path.components
    .ok { w with
      documents
      active := if wasActive then documents.values.head?.map Document.path else w.active }
  else .error (.documentNotFound path)

/-- Makes an open document active. -/
def setActive (w : Workspace) (path : Path) : Except WorkspaceError Workspace :=
  if w.isOpen path then .ok { w with active := some path } else .error (.documentNotFound path)

/-- Adds a folder to the workspace. -/
def addRoot (w : Workspace) (root : Path) : Workspace := { w with roots := w.roots ++ [root] }

/-- Says whether the user accepts what messages offer. -/
def setAcceptsPrompts (w : Workspace) (accepts : Bool) : Workspace :=
  { w with acceptsPrompts := accepts }

def text (w : Workspace) (path : Path) : Except WorkspaceError String :=
  match w.document? path with
  | some d => .ok d.text
  | none => .error (.documentNotFound path)

/-- Of two folders the one with more components; the later one if they have equally many. -/
def innermost (best : Option Path) (root : Path) : Option Path :=
  match best with
  | none => some root
  | some b => if b.components.length ≤ root.components.length then some root else some b

/-- The innermost folder of the workspace that holds a path. -/
def root? (w : Workspace) (path : Path) : Option Path :=
  (w.roots.filter fun root => path.startsWith root).foldl innermost none

/-- What resolution reads of a workspace. -/
def source (w : Workspace) : DocumentSource where
  active := w.activeDocument?
  opened := w.openDocuments
  find? := w.document?
  root? := w.root?

def applyTo (documents : PathMap Document) (file : FileEdits) : PathMap Document :=
  documents.modify file.path.components fun d => (d.applyEdits file.edits).1

/-- Applies edits to all their documents, or fails if one of them is not open. -/
def applyEdit (w : Workspace) (edit : WorkspaceEdit) : Except WorkspaceError Workspace :=
  match edit.paths.find? fun path => !w.isOpen path with
  | some missing => .error (.documentNotFound missing)
  | none => .ok { w with documents := edit.files.foldl applyTo w.documents }

/-- Notes a message, and tells whether the user accepts what it offers. -/
def showMessage (w : Workspace) (message : UserMessage) : Workspace × Bool :=
  ({ w with messages := w.messages ++ [message] }, w.acceptsPrompts && message.opens.isSome)

/-- Takes the messages out. -/
def takeMessages (w : Workspace) : Workspace × List UserMessage :=
  ({ w with messages := [] }, w.messages)

def requestOpen (w : Workspace) (path : Path) : Workspace :=
  { w with openRequests := w.openRequests ++ [path] }

end Workspace

end QuickFix
