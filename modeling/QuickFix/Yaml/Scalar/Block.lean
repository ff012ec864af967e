import QuickFix.Yaml.Cursor

/-!
Block scalars: lines that are indented more than what is around them. They are literal, or folded so
that a single line break between two lines that begin with no blank is read as a space. A header
says what becomes of the line breaks at the end, and how far the lines are indented.
-/

namespace QuickFix.Yaml.BlockScalar

/-- What becomes of the line breaks at the end. -/
inductive Chomping where
  /-- None is kept. -/
  | strip
  /-- The first is kept. -/
  | clip
  /-- All are kept. -/
  | keep
  deriving DecidableEq, Repr

/-- The first line of a block scalar. -/
structure Header where
  chomping : Chomping := .clip
  /-- How much more than its surroundings the scalar is indented, if that is said. -/
  indent : Option Nat := none

/-- Reads a sign for the line breaks at the end. -/
def readChomping (c : Cursor) : Option Chomping × Cursor :=
  match c.next with
  | some '+' => (some .keep, c.skip 1)
  | some '-' => (some .strip, c.skip 1)
  | _ => (none, c)

/-- Reads a digit for the indentation, which must not be zero. -/
def readIndent (c : Cursor) : Except Error (Option Nat × Cursor) :=
  match c.next with
  | some '0' => .error .malformedHeader
  | some ch => if '1' ≤ ch ∧ ch ≤ '9' then .ok (some (ch.toNat - 48), c.skip 1) else .ok (none, c)
  | none => .ok (none, c)

/-- Reads the header behind its first character: a sign and a digit, in either order. -/
def readHeader (c : Cursor) : Except Error (Header × Cursor) := do
  let (before, c) := readChomping c
  let (indent, c) ← readIndent c
  let (behind, c) :=
    match before, indent with
    | none, some _ => readChomping c
    | _, _ => (none, c)
  let c := c.skipComment
  if endsLine c.next then
    return (⟨(before.or behind).getD .clip, indent⟩, c.skipBreak)
  else throw .malformedHeader

/-- Empty lines: their breaks, the farthest column that was reached, and what follows. -/
structure EmptyLines where
  breaks : List Char
  farthest : Nat
  stop : Cursor

/-- Passes over the spaces of an indentation, up to a column if that is known. -/
def skipIndent (column : Option Nat) (c : Cursor) : Cursor :=
  let spaces := (c.takeWhile (· = ' ')).length
  match column with
  | some column => c.skip (min spaces (column - c.column))
  | none => c.skip spaces

/-- Reads empty lines and the indentation of the line behind them. Each step takes a line break, so
the length of the text is fuel enough. -/
def readEmptyLines (column : Option Nat) : (fuel : Nat) → Nat → Cursor → Except Error EmptyLines
  | 0, farthest, c => .ok ⟨[], farthest, c⟩
  | fuel + 1, farthest, c => do
    let c := skipIndent column c
    let farthest := max farthest c.column
    if c.next = some '\t' && column.all (c.column < ·) then throw .tabInIndentation
    if c.next.any isBreak then
      let more ← readEmptyLines column fuel farthest c.skipBreak
      return { more with breaks := c.breakText ++ more.breaks }
    else return ⟨[], farthest, c⟩

/-- What is between two lines: the break of the first, the breaks of empty lines behind it, and
whether the first began with a blank. -/
structure Between where
  first : List Char := []
  others : List Char := []
  afterBlank : Bool := false

/-- How the breaks between two lines are read. -/
def Between.text (b : Between) (literal beforeBlank : Bool) : List Char :=
  if !literal && b.first = ['\n'] && !b.afterBlank && !beforeBlank then
    (if b.others.isEmpty then [' '] else b.others)
  else b.first ++ b.others

/-- Which of the breaks at the end are kept. -/
def Between.tail (b : Between) : Chomping → List Char
  | .strip => []
  | .clip => b.first
  | .keep => b.first ++ b.others

/-- Reads the lines of a scalar that begin at a column. Each takes a character, so the length of the
text is fuel enough. -/
def readLines (literal : Bool) (chomping : Chomping) (column : Nat) :
    (fuel : Nat) → Between → Cursor → Except Error (List Char × Cursor)
  | 0, b, c => .ok (b.tail chomping, c)
  | fuel + 1, b, c => do
    if c.column ≠ column || c.rest.isEmpty then return (b.tail chomping, c)
    let blank := c.next.any isSpace
    let line := c.takeWhile fun ch => !isBreak ch
    let c := c.skip line.length
    let empty ← readEmptyLines (some column) (c.rest.length + 1) 0 c.skipBreak
    let (more, stop) ← readLines literal chomping column fuel ⟨c.breakText, empty.breaks, blank⟩ empty.stop
    return (b.text literal blank ++ line ++ more, stop)

/-- Reads a block scalar from its first character on. `outer` is the column of the block around it,
if there is one. -/
def read (literal : Bool) (outer : Option Nat) (c : Cursor) : Except Error (List Char × Cursor) := do
  let (header, c) ← readHeader (c.skip 1)
  let said := header.indent.map fun n => outer.getD 0 + n
  let empty ← readEmptyLines said (c.rest.length + 1) 0 c
  let least := (outer.map (· + 1)).getD 0
  let column := said.getD (max (max empty.farthest least) 1)
  readLines literal header.chomping column (empty.stop.rest.length + 1) ⟨[], empty.breaks, false⟩ empty.stop

end QuickFix.Yaml.BlockScalar
