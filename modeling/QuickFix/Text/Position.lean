/-!
Positions and ranges in a text: a zero-based line and a zero-based column that counts characters,
ordered by line first.
-/

namespace QuickFix

/-- A line and a column in it. -/
structure Position where
  line : Nat
  column : Nat
  deriving DecidableEq, Repr, Inhabited

namespace Position

/-- Positions are ordered by their lines, and on one line by their columns. -/
def le (p q : Position) : Prop :=
  p.line < q.line ∨ p.line = q.line ∧ p.column ≤ q.column

instance : LE Position := ⟨le⟩

instance (p q : Position) : Decidable (p ≤ q) :=
  inferInstanceAs (Decidable (_ ∨ _ ∧ _))

theorem le_def {p q : Position} :
    p ≤ q ↔ p.line < q.line ∨ p.line = q.line ∧ p.column ≤ q.column := Iff.rfl

end Position

/-- A half-open range between two positions. Nothing forces the start to come first. -/
structure Range where
  start : Position
  stop : Position
  deriving DecidableEq, Repr, Inhabited

namespace Range

/-- The empty range at a position. -/
def caret (p : Position) : Range := ⟨p, p⟩

/-- A range is empty if it starts at or after its end. -/
def isEmpty (r : Range) : Bool := decide (r.stop ≤ r.start)

end Range

end QuickFix
