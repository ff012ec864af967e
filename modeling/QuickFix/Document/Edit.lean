import QuickFix.Text.Position

/-!
A text edit puts a new text in place of a range. An insertion is an edit of an empty range.
-/

namespace QuickFix

/-- A new text for a range. -/
structure TextEdit where
  range : Range
  newText : String
  deriving DecidableEq, Repr, Inhabited

namespace TextEdit

def insert (position : Position) (text : String) : TextEdit := ⟨.caret position, text⟩

def replace (range : Range) (text : String) : TextEdit := ⟨range, text⟩

/-- An edit with an empty range takes nothing away. -/
def isInsert (edit : TextEdit) : Bool := edit.range.isEmpty

end TextEdit

end QuickFix
