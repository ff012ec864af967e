import QuickFix.Unicode.Band
import QuickFix.Unicode.CaseFold
import QuickFix.Unicode.Letter
import QuickFix.Unicode.Mark
import QuickFix.Unicode.Numeral
import QuickFix.Unicode.Separator
import QuickFix.Unicode.Symbol
import QuickFix.Unicode.Trait

/-!
Sets of characters, as expressions over tables. Membership follows the expression: no set is ever
written out.
-/

namespace QuickFix.Regex

open Unicode

inductive CharSet where
  /-- The characters on the bands of a table. -/
  | bands (table : List Band)
  | union (a b : CharSet)
  | inter (a b : CharSet)
  | diff (a b : CharSet)
  | compl (a : CharSet)
  /-- The characters with a case variant in the set. -/
  | folded (a : CharSet)
  /-- The characters that are in the set in capital or small ASCII letters. -/
  | foldedAscii (a : CharSet)
  deriving DecidableEq, Repr

namespace CharSet

/-- The capital and the small form of an ASCII letter. -/
def asciiVariants (n : Nat) : List Nat :=
  if 65 ≤ n ∧ n ≤ 90 then [n, n + 32] else if 97 ≤ n ∧ n ≤ 122 then [n, n - 32] else [n]

/-- Whether a code point is in a set. -/
def holds : CharSet → Nat → Bool
  | bands table, n => inBands table n
  | union a b, n => a.holds n || b.holds n
  | inter a b, n => a.holds n && b.holds n
  | diff a b, n => a.holds n && !b.holds n
  | compl a, n => !a.holds n
  | folded a, n => (caseVariants n).any a.holds
  | foldedAscii a, n => (asciiVariants n).any a.holds

def contains (s : CharSet) (c : Char) : Bool := s.holds c.toNat

def empty : CharSet := bands []

def all : CharSet := compl empty

/-- The characters of a stretch, its ends included. -/
def range (first last : Char) : CharSet := bands [stretch first.toNat last.toNat]

def single (c : Char) : CharSet := range c c

/-- The characters of any of the sets. -/
def unions : List CharSet → CharSet
  | [] => empty
  | [s] => s
  | s :: rest => union s (unions rest)

/-- The characters in exactly one of two sets. -/
def symmDiff (a b : CharSet) : CharSet := union (diff a b) (diff b a)

/-- The complement if `negated`. -/
def complIf (negated : Bool) (s : CharSet) : CharSet := if negated then compl s else s

def letter : CharSet :=
  unions [bands lowercaseLetter, bands uppercaseLetter, bands otherLetter, bands modifierLetter,
    bands titlecaseLetter]

def mark : CharSet := unions [bands nonspacingMark, bands spacingMark, bands enclosingMark]

def numeral : CharSet := unions [bands decimalNumber, bands letterNumber, bands otherNumber]

def alphabetic : CharSet := unions [letter, bands letterNumber, bands otherAlphabetic]

/-- The characters of words: alphabetic characters, marks, digits, connectors and joiners. -/
def word : CharSet :=
  unions [letter, bands decimalNumber, bands connectorPunctuation, mark, bands letterNumber,
    bands otherAlphabetic, bands joinControl]

def digit : CharSet := bands decimalNumber

def space : CharSet := bands whiteSpace

/-- The characters of words in ASCII. -/
def asciiWord : CharSet :=
  bands [stretch 0x30 0x39, stretch 0x41 0x5A, stretch 0x5F 0x5F, stretch 0x61 0x7A]

def asciiDigit : CharSet := bands [stretch 0x30 0x39]

def asciiSpace : CharSet := bands [stretch 0x09 0x0D, stretch 0x20 0x20]

def ascii : CharSet := bands [stretch 0 0x7F]

end CharSet

end QuickFix.Regex
