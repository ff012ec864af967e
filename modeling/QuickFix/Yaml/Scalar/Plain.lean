import QuickFix.Yaml.Scalar.Gap

/-!
Plain scalars: words without quotes. They end before a colon with a blank behind it, a comment, a
document marker, a line that is not indented enough, and between brackets before those and commas.
-/

namespace QuickFix.Yaml

/-- A scalar as it was read: its text, where it ends, and whether the line ended behind its last
word. -/
structure PlainScalar where
  text : List Char
  stop : Cursor
  endsLine : Bool

namespace PlainScalar

/-- Whether a character ends a plain scalar between brackets. -/
def isFlowIndicator (c : Char) : Bool := c = ',' || c = '[' || c = ']' || c = '\x7b' || c = '\x7d'

/-- A word, as far as it belongs to a plain scalar. Between brackets a colon must not touch a
bracket, a comma or a question mark. -/
def word (inFlow : Bool) : List Char → Except Error (List Char)
  | [] => .ok []
  | c :: rest =>
    if isSpace c || isBreak c then .ok []
    else if inFlow && c = ':' && rest.head?.any (fun d => d = '?' || isFlowIndicator d) then
      .error .misplacedIndicator
    else if c = ':' && endsWord rest.head? then .ok []
    else if inFlow && isFlowIndicator c then .ok []
    else (word inFlow rest).map (c :: ·)

/-- Reads the words of a plain scalar behind a gap. Each word takes a character, so the length of
the text is fuel enough. -/
def readWords (inFlow : Bool) (column : Nat) : (fuel : Nat) → Gap → Cursor → Except Error PlainScalar
  | 0, g, c => .ok ⟨[], c, g.broken⟩
  | fuel + 1, g, c => do
    if c.atAnyMarker || c.next = some '#' then return ⟨[], c, g.broken⟩
    let w ← word inFlow c.rest
    if w.isEmpty then return ⟨[], c, g.broken⟩
    let text := g.text ++ w
    let c := c.skip w.length
    if c.next.any fun ch => isSpace ch || isBreak ch then
      let (g, c) ← Gap.read column c.rest.length {} c
      if !inFlow && c.column < column then return ⟨text, c, g.broken⟩
      let more ← readWords inFlow column fuel g c
      return { more with text := text ++ more.text }
    else return ⟨text, c, false⟩

/-- Reads a plain scalar; in a block, its lines go at least to a column. -/
def read (inFlow : Bool) (column : Nat) (c : Cursor) : Except Error PlainScalar :=
  readWords inFlow column (c.rest.length + 1) {} c

end PlainScalar

end QuickFix.Yaml
