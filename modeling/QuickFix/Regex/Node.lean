import QuickFix.Regex.CharSet

/-!
Regular expressions as trees. Alternatives are tried from left to right, greedy repetitions prefer
one more turn, lazy ones one less.
-/

namespace QuickFix.Regex

/-- A condition on the place between two characters. `ascii` restricts words to ASCII. -/
inductive Assertion where
  | textStart
  | textEnd
  | lineStart
  | lineEnd
  /-- Lines that end at LF, CR or both. -/
  | lineStartCrlf
  | lineEndCrlf
  | boundary (ascii : Bool)
  | noBoundary (ascii : Bool)
  | wordStart (ascii : Bool)
  | wordEnd (ascii : Bool)
  /-- No character of a word in front. -/
  | wordStartHalf (ascii : Bool)
  /-- No character of a word behind. -/
  | wordEndHalf (ascii : Bool)
  deriving DecidableEq, Repr

namespace Assertion

def wordSet (ascii : Bool) : CharSet := if ascii then .asciiWord else .word

/-- Whether the assertion holds between two neighbours, each missing at an end of the text. -/
def holds (a : Assertion) (before after : Option Char) : Bool :=
  let inWord (ascii : Bool) (c : Option Char) : Bool := c.any (wordSet ascii).contains
  match a with
  | textStart => before.isNone
  | textEnd => after.isNone
  | lineStart => before.all (· = '\n')
  | lineEnd => after.all (· = '\n')
  | lineStartCrlf =>
    before.all fun c => c = '\n' || c = '\r' && after ≠ some '\n'
  | lineEndCrlf =>
    after.all fun c => c = '\r' || c = '\n' && before ≠ some '\r'
  | boundary ascii => inWord ascii before != inWord ascii after
  | noBoundary ascii => inWord ascii before == inWord ascii after
  | wordStart ascii => !inWord ascii before && inWord ascii after
  | wordEnd ascii => inWord ascii before && !inWord ascii after
  | wordStartHalf ascii => !inWord ascii before
  | wordEndHalf ascii => !inWord ascii after

end Assertion

inductive Node where
  | empty
  | set (s : CharSet)
  | assert (a : Assertion)
  | group (index : Nat) (name : Option String) (body : Node)
  | repeated (body : Node) (min : Nat) (max : Option Nat) (greedy : Bool)
  | cat (first second : Node)
  | alt (first second : Node)
  deriving DecidableEq, Repr

namespace Node

/-- Whether an expression may match the empty text. -/
def mayBeEmpty : Node → Bool
  | empty => true
  | set _ => false
  | assert _ => true
  | group _ _ body => body.mayBeEmpty
  | repeated body min _ _ => min = 0 || body.mayBeEmpty
  | cat a b => a.mayBeEmpty && b.mayBeEmpty
  | alt a b => a.mayBeEmpty || b.mayBeEmpty

/-- Whether an expression matches nothing but the empty text. -/
def isAlwaysEmpty : Node → Bool
  | empty => true
  | set _ => false
  | assert _ => true
  | group _ _ body => body.isAlwaysEmpty
  | repeated body _ _ _ => body.isAlwaysEmpty
  | cat a b => a.isAlwaysEmpty && b.isAlwaysEmpty
  | alt a b => a.isAlwaysEmpty && b.isAlwaysEmpty

/-- A repetition. What takes no room is repeated once at most, no repetition at all is the empty
expression, and one repetition is the expression itself. -/
def repeating (body : Node) (min : Nat) (max : Option Nat) (greedy : Bool) : Node :=
  let (min, max) :=
    if body.isAlwaysEmpty then (Nat.min min 1, some ((max.map (Nat.min · 1)).getD 1)) else (min, max)
  if max = some 0 then empty
  else if min = 1 ∧ max = some 1 then body
  else repeated body min max greedy

def cats : List Node → Node
  | [] => empty
  | [n] => n
  | n :: rest => cat n (cats rest)

def alts : List Node → Node
  | [] => empty
  | [n] => n
  | n :: rest => alt n (alts rest)

/-- The groups with their names, in no particular order. -/
def groups : Node → List (Nat × Option String)
  | empty => []
  | set _ => []
  | assert _ => []
  | group index name body => (index, name) :: body.groups
  | repeated body _ _ _ => body.groups
  | cat a b => a.groups ++ b.groups
  | alt a b => a.groups ++ b.groups

end Node

end QuickFix.Regex
