import QuickFix.Text.Position

/-!
Diagnostics: what a checker has to say about a range of a document. Only the message takes part in
matching rules; the rest is kept to tell which diagnostic an action fixes.
-/

namespace QuickFix

inductive Severity where
  | error
  | warning
  | information
  | hint
  deriving DecidableEq, Repr

/-- A remark on a range of a document. -/
structure Diagnostic where
  range : Range
  severity : Option Severity
  code : Option String
  source : Option String
  message : String
  deriving DecidableEq, Repr

end QuickFix
