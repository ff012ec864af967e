/-!
Bands of code points. A band runs from its first code point to its last in equal steps, so a stretch
in which capital and small letters alternate takes two bands. A table lists its bands by where they
start.
-/

namespace QuickFix.Unicode

/-- The code points `first, first + step, …` up to `last`. -/
structure Band where
  first : Nat
  last : Nat
  step : Nat
  deriving DecidableEq, Repr

def Band.contains (b : Band) (n : Nat) : Bool :=
  b.first ≤ n && n ≤ b.last && (n - b.first) % b.step = 0

/-- Whether a code point is on a band of a table. Bands that start behind it are not looked at. -/
def inBands : List Band → Nat → Bool
  | [], _ => false
  | b :: bs, n => if n < b.first then false else b.contains n || inBands bs n

/-- The band of a stretch without gaps. -/
def stretch (first last : Nat) : Band := ⟨first, last, 1⟩

end QuickFix.Unicode
