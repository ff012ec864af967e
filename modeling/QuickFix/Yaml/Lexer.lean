import QuickFix.Yaml.Layout
import QuickFix.Yaml.Scalar.Block
import QuickFix.Yaml.Scalar.Plain
import QuickFix.Yaml.Scalar.Quoted

/-!
The tokens of a text.
-/

namespace QuickFix.Yaml

namespace Layout

/-- Passes over a byte order mark at the very start of a text. -/
def skipMark (c : Cursor) : Cursor :=
  if c.index = 0 && c.next = some '\ufeff' then c.skip 1 else c

/-- Passes over blanks, comments and line breaks. A tab does not count as a blank where a key may
begin in a block; behind a line break of a block one may. Each step takes a line break, so the
length of the text is fuel enough. -/
def skipBlanks : (fuel : Nat) → Layout → Layout
  | 0, l => l
  | fuel + 1, l =>
    let tabs := l.inFlow || !l.keyAllowed
    let c := (skipMark l.cursor).skipWhile fun ch => ch = ' ' || (tabs && ch = '\t')
    let c := if c.next = some '#' then c.skipLine else c
    if c.next.any isBreak then
      skipBlanks fuel { l with cursor := c.skipBreak, keyAllowed := l.keyAllowed || !l.inFlow }
    else { l with cursor := c }

/-- Reads a plain scalar. If a line ended behind it, a key may begin there. -/
def plainScalar (l : Layout) : Except Error Layout := do
  let l ← l.notePlace
  let s ← PlainScalar.read l.inFlow l.contentColumn l.cursor
  return { l with keyAllowed := s.endsLine }.take (.scalar s.text true, s.stop)

def readBlock (l : Layout) (literal : Bool) (c : Cursor) : Except Error (Token × Cursor) := do
  let (text, stop) ← BlockScalar.read literal l.column? c
  return (.scalar text false, stop)

def readQuoted (q : QuotedScalar.Quote) (c : Cursor) : Except Error (Token × Cursor) := do
  let (text, stop) ← QuotedScalar.read q c
  return (.scalar text false, stop)

/-- Reads an alias, or an anchor. -/
def readNamed (token : List Char → Token) (c : Cursor) : Except Error (Token × Cursor) := do
  let (name, stop) ← Token.readName c
  return (token name, stop)

def readTag (l : Layout) (c : Cursor) : Except Error (Token × Cursor) := do
  let (tag, stop) ← WrittenTag.read l.inFlow c
  return (.tag tag, stop)

/-- The characters that never begin a plain scalar. Dashes, question marks and colons are not among
them. -/
def indicators : List Char :=
  [',', '[', ']', '\x7b', '\x7d', '#', '&', '*', '!', '|', '>', '\'', '"', '%', '@', '\x60']

/-- Whether a plain scalar begins with a character that has another behind it. -/
def beginsPlain (l : Layout) (c : Char) (behind : Option Char) : Bool :=
  if c = '-' then !behind.any isSpace
  else if c = '?' || c = ':' then !l.inFlow && !endsWord behind
  else !(isSpace c || isBreak c || indicators.contains c)

/-- Reads the token that begins with a character. -/
def readToken (l : Layout) (first : Char) : Except Error Layout :=
  let c := l.cursor
  let wordEnds := endsWord (c.ahead 1)
  if c.column = 0 && first = '%' then l.betweenDocuments Token.readDirective
  else if c.atMarker '-' then l.betweenDocuments fun c => .ok (.documentStart, c.skip 3)
  else if c.atMarker '.' then l.betweenDocuments fun c => .ok (.documentEnd, c.skip 3)
  else if first = '[' then l.openBracket .flowSequenceStart
  else if first = '\x7b' then l.openBracket .flowMappingStart
  else if first = ']' then l.closeBracket .flowSequenceEnd
  else if first = '\x7d' then l.closeBracket .flowMappingEnd
  else if first = ',' then l.comma
  else if first = '-' && wordEnds then l.item
  else if first = '?' && (l.inFlow || wordEnds) then l.explicitKey
  else if first = ':' && (l.inFlow || wordEnds) then l.value
  else if first = '*' then l.keyPart (readNamed .reference)
  else if first = '&' then l.keyPart (readNamed .anchor)
  else if first = '!' then l.keyPart (l.readTag)
  else if first = '|' && !l.inFlow then l.blockScalar (l.readBlock true)
  else if first = '>' && !l.inFlow then l.blockScalar (l.readBlock false)
  else if first = '\'' then l.keyPart (readQuoted .single)
  else if first = '"' then l.keyPart (readQuoted .double)
  else if l.beginsPlain first (c.ahead 1) then l.plainScalar
  else .error (.unexpectedCharacter first)

/-- Reads tokens up to the end of the text. Each takes a character, so the length of the text is
fuel enough. -/
def readTokens : (fuel : Nat) → Layout → Except Error (List Token)
  | 0, l => l.finish
  | fuel + 1, l => do
    let l ← (skipBlanks (l.cursor.rest.length + 1) l).dropStale
    let l := l.closeBehind l.cursor.column
    match l.cursor.next with
    | none => l.finish
    | some first => readTokens fuel (← l.readToken first)

end Layout

def tokens (text : List Char) : Except Error (List Token) :=
  match text.find? fun c => !isAllowed c with
  | some c => .error (.controlCharacter c)
  | none => Layout.readTokens (text.length + 1) { cursor := .ofText text }

end QuickFix.Yaml
