import QuickFix.Engine.Basic
import QuickFix.Workspace.Basic

/-!
Invoking an action: it is resolved, the user is told what there is to tell, and its edits are
applied.
-/

namespace QuickFix

namespace Workspace

/-- Shows a message, and opens what it offers if the user accepts. -/
def present (w : Workspace) (message : UserMessage) : Workspace :=
  match w.showMessage message, message.opens with
  | (w, true), some path => w.requestOpen path
  | (w, _), _ => w

/-- Applies the edits of an action, if it has any. -/
def applyAttached (w : Workspace) (edit : Option WorkspaceEdit) : Except WorkspaceError Workspace :=
  match edit with
  | some edit => if edit.isEmpty then .ok w else w.applyEdit edit
  | none => .ok w

end Workspace

/-- What is left when an action was invoked: what came of it, the action with its edits, and the
workspace. -/
structure Invocation where
  resolution : Resolution
  action : CandidateAction
  workspace : Workspace

def Engine.invoke (e : Engine) (action : CandidateAction) (w : Workspace) :
    Except WorkspaceError Invocation :=
  let (resolution, action) := e.resolve action w.source
  let w := resolution.messages.foldl Workspace.present w
  match w.applyAttached action.edit with
  | .ok w => .ok ⟨resolution, action, w⟩
  | .error err => .error err

end QuickFix
