import QuickFix.Yaml.Cursor

/-!
The gaps between the words of a scalar that may go over several lines. A single line break is folded
into a space; of more, all but the first are kept.
-/

namespace QuickFix.Yaml

/-- What lies between two words: the blanks of a line, or line breaks. -/
structure Gap where
  spaces : List Char := []
  /-- Whether the line has ended; the blanks around its end do not count. -/
  broken : Bool := false
  first : List Char := []
  others : List Char := []

instance : Inhabited Gap := ⟨{}⟩

namespace Gap

/-- What a gap is read as. -/
def text (g : Gap) : List Char :=
  if !g.broken then g.spaces
  else if g.first = ['\n'] then (if g.others.isEmpty then [' '] else g.others)
  else g.first ++ g.others

/-- Takes in a line break. -/
def addBreak (g : Gap) (chars : List Char) : Gap :=
  if g.broken then { g with others := g.others ++ chars }
  else { g with broken := true, first := chars }

/-- Takes in a space or tab. -/
def addSpace (g : Gap) (c : Char) : Gap :=
  if g.broken then g else { g with spaces := g.spaces ++ [c] }

/-- Reads a gap. A tab in a new line must not come before the column of the content. Each step takes
a character, so the length of the text is fuel enough. -/
def read (column : Nat) : (fuel : Nat) → Gap → Cursor → Except Error (Gap × Cursor)
  | 0, g, c => .ok (g, c)
  | fuel + 1, g, c =>
    match c.next with
    | none => .ok (g, c)
    | some ch =>
      if isBreak ch then read column fuel (g.addBreak c.breakText) c.skipBreak
      else if isSpace ch then
        if g.broken && c.column < column && ch = '\t' then .error .tabInIndentation
        else read column fuel (g.addSpace ch) (c.skip 1)
      else .ok (g, c)

end Gap

end QuickFix.Yaml
