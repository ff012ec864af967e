/-!
Counting a text in UTF-16 code units: a character outside the basic plane takes two of them.
-/

namespace QuickFix.Text

def unitsOf (c : Char) : Nat := if c.toNat < 0x10000 then 1 else 2

def units (cs : List Char) : Nat := cs.foldr (fun c n => unitsOf c + n) 0

/-- The number of code units of the first `offset` characters. -/
def unitsBefore (cs : List Char) (offset : Nat) : Nat := units (cs.take offset)

/-- The number of characters that cover `count` code units, or all if there are fewer. A count that
ends inside a character covers it. -/
def charsCovering : List Char → Nat → Nat
  | [], _ => 0
  | c :: cs, count => if count = 0 then 0 else charsCovering cs (count - unitsOf c) + 1

end QuickFix.Text
