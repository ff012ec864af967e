import QuickFix.Document.WorkspaceEdit
import QuickFix.Rule.Basic

/-!
Candidate actions: rules that matched a query, with their evidence and the tables of their time. To
resolve an action is to find its edits; whether that succeeds or not, it may have something to say
to the user.
-/

namespace QuickFix

/-- Why an action has no edits. -/
inductive ResolveError where
  /-- A step refers to a document that is not open. -/
  | unresolvedDocument (path : Path)
  /-- A step refers to the workspace, but the active document lies in none. -/
  | noWorkspaceRoot (path : Path)
  | noActiveDocument
  /-- The settings no longer serve the language of the action. -/
  | providerInactive (language : String)
  deriving DecidableEq, Repr

def ResolveError.message : ResolveError → String
  | unresolvedDocument path => "document is not open: " ++ path.text
  | noWorkspaceRoot path => "current file not in this workspace: " ++ path.text
  | noActiveDocument => "no active document"
  | providerInactive language => "code actions for '" ++ language ++ "' are inactive"

/-- A rule that matched, bound to its evidence. -/
structure CandidateAction where
  title : String
  language : String
  /-- The document that was queried. -/
  document : Path
  rule : Rule
  evidence : Evidence
  tables : Tables
  /-- The edits, once the action is resolved. -/
  edit : Option WorkspaceEdit

namespace CandidateAction

/-- The kind that editors know such actions by. -/
def kind : String := "quickfix"

def isResolved (action : CandidateAction) : Bool := action.edit.isSome

end CandidateAction

/-- How a message is meant. -/
inductive MessageKind where
  | error
  | information
  deriving DecidableEq, Repr

/-- A message for the user, perhaps with an offer to open a document. -/
structure UserMessage where
  kind : MessageKind
  text : String
  opens : Option Path
  deriving DecidableEq, Repr

namespace UserMessage

def error (text : String) : UserMessage := ⟨.error, text, none⟩

def information (text : String) : UserMessage := ⟨.information, text, none⟩

/-- The label of the button that opens a document. -/
def openLabel : String := "Open file"

end UserMessage

/-- What came of resolving an action. -/
inductive Resolution where
  /-- The action has edits, perhaps none; it may have to be applied again for the steps that are
  left. -/
  | resolved (needsReapply : Bool)
  | unresolved (error : ResolveError)
  deriving DecidableEq, Repr

namespace Resolution

def isResolved : Resolution → Bool
  | resolved _ => true
  | unresolved _ => false

def messages : Resolution → List UserMessage
  | resolved true => [.information "Please apply action again to continue the edits."]
  | resolved false => []
  | unresolved (.unresolvedDocument path) =>
    [⟨.error, "Please visit file, and keep tab: " ++ path.text, some path⟩]
  | unresolved (.noWorkspaceRoot _) => [.error "Current file not in this Workspace"]
  | unresolved .noActiveDocument => []
  | unresolved (.providerInactive _) => []

end Resolution

end QuickFix
