import QuickFix.Lsp.Diagnostic
import QuickFix.Lsp.Uri

/-!
Edits and actions as language clients take them. The edits of a document that is not open keep their
columns.
-/

namespace QuickFix

/-- Writes an edit, with the positions of its document if that is open. -/
def TextEdit.toJson (d : Option Document) (edit : TextEdit) : Json :=
  let range :=
    match d with
    | some d => d.toClientRange edit.range
    | none => .ofRange edit.range
  .object [("range", range.toJson), ("newText", .string edit.newText)]

/-- Writes the edits of several documents, each under the URI of its path. -/
def WorkspaceEdit.toJson (source : DocumentSource) (edit : WorkspaceEdit)
    (workingDirectory : Option Path := none) : Json :=
  let changes := edit.files.map fun file =>
    (Uri.ofPath file.path workingDirectory,
      Json.array (file.edits.map (TextEdit.toJson (source.find? file.path))))
  .object [("changes", .object (Json.membersOf changes))]

/-- Writes an action: its diagnostic only if the document is still open, and its edits if it has
any. -/
def CandidateAction.toJson (source : DocumentSource) (action : CandidateAction)
    (workingDirectory : Option Path := none) : Json :=
  let diagnostics := do
    let found ← action.evidence.diagnostic
    let d ← source.find? action.document
    return ("diagnostics", Json.array [found.diagnostic.toJson d])
  let edit := action.edit.map fun e => ("edit", e.toJson source workingDirectory)
  .object ([("title", .string action.title), ("kind", .string kind)] ++
    diagnostics.toList ++ edit.toList)

end QuickFix
