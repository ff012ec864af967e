import QuickFix.Yaml.Error

/-!
A place in a text, with the line and the column that indentation is measured by, and the classes of
characters that matter everywhere in YAML.
-/

namespace QuickFix.Yaml

/-- Whether a character may stand in a text at all. -/
def isAllowed (c : Char) : Bool :=
  let n := c.toNat
  n = 0x9 || n = 0xA || n = 0xD || (0x20 ≤ n && n ≤ 0x7E) || n = 0x85 || (0xA0 ≤ n && n ≤ 0xD7FF) ||
    (0xE000 ≤ n && n ≤ 0xFFFD) || 0x10000 ≤ n

def isBreak (c : Char) : Bool :=
  c = '\n' || c = '\r' || c = '\u0085' || c = '\u2028' || c = '\u2029'

/-- Whether a character separates words within a line. -/
def isSpace (c : Char) : Bool := c = ' ' || c = '\t'

def endsLine (next : Option Char) : Bool := next.all isBreak

def endsWord (next : Option Char) : Bool := next.all fun c => isSpace c || isBreak c

/-- Whether a character may stand in the name of an anchor, a handle or a directive. -/
def isNameChar (c : Char) : Bool := c.isAlphanum || c = '_' || c = '-'

/-- A place in a text: what follows it, how many characters lie before it, and its line and column.
-/
structure Cursor where
  rest : List Char
  index : Nat
  line : Nat
  column : Nat
  deriving DecidableEq, Repr

namespace Cursor

/-- The start of a text. -/
def ofText (text : List Char) : Cursor := ⟨text, 0, 0, 0⟩

def next (c : Cursor) : Option Char := c.rest.head?

/-- The character behind some others. -/
def ahead (c : Cursor) (count : Nat) : Option Char := c.rest[count]?

/-- Goes on by some characters of a line. -/
def skip (c : Cursor) (count : Nat) : Cursor :=
  ⟨c.rest.drop count, c.index + count, c.line, c.column + count⟩

/-- The characters of a line from here on that belong to a class. -/
def takeWhile (c : Cursor) (belongs : Char → Bool) : List Char := c.rest.takeWhile belongs

/-- Passes over the characters of a line that belong to a class. -/
def skipWhile (c : Cursor) (belongs : Char → Bool) : Cursor := c.skip (c.takeWhile belongs).length

/-- The number of characters of the line break that follows. -/
def breakLength : List Char → Nat
  | '\r' :: '\n' :: _ => 2
  | c :: _ => if isBreak c then 1 else 0
  | [] => 0

def skipBreak (c : Cursor) : Cursor :=
  match breakLength c.rest with
  | 0 => c
  | n => ⟨c.rest.drop n, c.index + n, c.line + 1, 0⟩

/-- What a line break that follows is read as: the Unicode separators as themselves, all others as a
line feed. -/
def breakText (c : Cursor) : List Char :=
  match c.next with
  | some '\u2028' => ['\u2028']
  | some '\u2029' => ['\u2029']
  | some ch => if isBreak ch then ['\n'] else []
  | none => []

/-- Passes over the rest of a line, but not its break. -/
def skipLine (c : Cursor) : Cursor := c.skipWhile fun ch => !isBreak ch

def skipSpaces (c : Cursor) : Cursor := c.skipWhile isSpace

/-- Passes over spaces and tabs and a comment behind them. -/
def skipComment (c : Cursor) : Cursor :=
  let c := c.skipSpaces
  if c.next = some '#' then c.skipLine else c

/-- Whether a word of three characters follows that begins or ends a document. -/
def atMarker (c : Cursor) (mark : Char) : Bool :=
  c.column = 0 && c.rest.take 3 = [mark, mark, mark] && endsWord (c.ahead 3)

/-- Whether a document begins or ends here. -/
def atAnyMarker (c : Cursor) : Bool := c.atMarker '-' || c.atMarker '.'

end Cursor

end QuickFix.Yaml
