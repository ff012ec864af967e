import QuickFix.Text.Position

/-!
Lines of a text. A line ends at LF, CR, CR LF (one end), VT, FF, NEL, LS or PS, so a text with `n`
line ends has `n + 1` lines, the last of them without an end. Offsets count characters from the
start of the text; they convert to positions and back, clamped to the text and to the line.
-/

namespace QuickFix.Text

/-- The characters that end a line. -/
def isBreak (c : Char) : Bool :=
  c = '\n' || c = '\r' || c = '\x0b' || c = '\x0c' || c = '\u0085' || c = '\u2028' || c = '\u2029'

/-- Whether a line ends after `c`, given what follows: a CR waits for the LF that completes it. -/
def endsLine (c : Char) (rest : List Char) : Bool :=
  isBreak c && !(c = '\r' && rest.head? = some '\n')

/-- Puts a character in front of the first line. -/
def consFirst (c : Char) : List (List Char) → List (List Char)
  | [] => [[c]]
  | line :: lines => (c :: line) :: lines

/-- The lines of a text, each with the characters that end it. -/
def rawLines : List Char → List (List Char)
  | [] => [[]]
  | c :: rest => if endsLine c rest then [c] :: rawLines rest else consFirst c (rawLines rest)

/-- A character put in front of the first line is in front of the text. -/
theorem flatten_consFirst (c : Char) (ls : List (List Char)) :
    (consFirst c ls).flatten = c :: ls.flatten := by
  cases ls <;> simp [consFirst]

/-- A text has at least one line. -/
theorem rawLines_ne_nil (text : List Char) : rawLines text ≠ [] := by
  cases text with
  | nil => simp [rawLines]
  | cons c cs =>
    simp only [rawLines]
    split
    · simp
    · cases rawLines cs <;> simp [consFirst]

/-- The lines with their ends make up the text. -/
theorem flatten_rawLines (text : List Char) : (rawLines text).flatten = text := by
  induction text with
  | nil => simp [rawLines]
  | cons c cs ih =>
    simp only [rawLines]
    split
    · simp [ih]
    · rw [flatten_consFirst, ih]

/-- Drops the last character if it is `c`. -/
def dropLastIf (c : Char) (line : List Char) : List Char :=
  if line.getLast? = some c then line.dropLast else line

/-- The text of a line: one LF and then one CR at its end are dropped, all other line ends stay. -/
def trimEnd (line : List Char) : List Char := dropLastIf '\r' (dropLastIf '\n' line)

def lines (text : List Char) : List (List Char) := (rawLines text).map trimEnd

/-- The number of lines; an empty text has one. -/
def lineCount (text : List Char) : Nat := (rawLines text).length

/-- There is a text for each line. -/
theorem length_lines (text : List Char) : (lines text).length = lineCount text := by
  simp [lines, lineCount]

/-- The text of a line, if there is such a line. -/
def line? (text : List Char) (line : Nat) : Option (List Char) := (lines text)[line]?

/-- The number of characters in the text of a line, zero if there is no such line. -/
def lineLength (text : List Char) (line : Nat) : Nat :=
  match line? text line with
  | some l => l.length
  | none => 0

def lineStart (text : List Char) (line : Nat) : Nat :=
  ((rawLines text).take line).flatten.length

/-- The index of the line that holds an offset; what lies past all lines is on the last one. -/
def lineHolding : List (List Char) → Nat → Nat
  | [], _ => 0
  | [_], _ => 0
  | line :: next :: more, offset =>
    if offset < line.length then 0 else lineHolding (next :: more) (offset - line.length) + 1

def lineAt (text : List Char) (offset : Nat) : Nat :=
  lineHolding (rawLines text) (min offset text.length)

/-- The position of an offset, clamped to the text and to the text of its line. -/
def positionAt (text : List Char) (offset : Nat) : Position :=
  let line := lineAt text offset
  ⟨line, min (min offset text.length - lineStart text line) (lineLength text line)⟩

/-- The offset of a position. A line past the end is the end of the text, and a column past the end
of its line is the end of that line. -/
def offsetAt (text : List Char) (position : Position) : Nat :=
  if position.line < lineCount text then
    lineStart text position.line + min position.column (lineLength text position.line)
  else text.length

/-- Puts `added` at an offset, or at the end if the offset lies past it. -/
def insertAt (text : List Char) (offset : Nat) (added : List Char) : List Char :=
  text.take offset ++ added ++ text.drop offset

/-- Takes out `count` characters from `start` on, as far as there are any. -/
def eraseAt (text : List Char) (start count : Nat) : List Char :=
  text.take start ++ text.drop (start + count)

end QuickFix.Text
