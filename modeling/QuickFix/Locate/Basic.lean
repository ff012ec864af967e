import QuickFix.Capture.Basic
import QuickFix.Document.Basic

/-!
Finding places in a document. Patterns are looked for line by line: a chase takes several patterns
and goes on for each where the one before was found. A cursor is looked for among all matches in the
whole text, and a literal text where it first occurs.
-/

namespace QuickFix

/-- A match in a line of a document. -/
structure Located where
  captured : Captured
  line : Nat
  span : Span
  deriving DecidableEq, Repr

namespace Located

def range (m : Located) : Range := ⟨⟨m.line, m.span.start⟩, ⟨m.line, m.span.stop⟩⟩

end Located

namespace Locate

/-- Looks for a pattern from a column of the first of some lines on; `line` is the number of that
line. A line without a match on which `stop` matches ends the search. -/
def seek (re : Regex) (stop : Option Regex) (line column : Nat) : List (List Char) → Option Located
  | [] => none
  | text :: rest =>
    let start := min column text.length
    match re.matchFrom? text start with
    | some spans => some ⟨.ofSpans re text spans, line, Regex.Spans.whole spans⟩
    | none =>
      if stop.any fun s => (s.matchFrom? text start).isSome then none
      else seek re stop (line + 1) 0 rest

/-- Goes on from a match with the patterns that are left. -/
def chaseOn (lines : List (List Char)) (stop : Option Regex) (found : Located) :
    List Regex → Option Located
  | [] => some found
  | re :: rest =>
    match seek re stop found.line found.span.stop (lines.drop found.line) with
    | some next => chaseOn lines stop next rest
    | none => none

/-- Looks for patterns one after the other, each from where the one before was found, and answers
with the last match. `stop` ends the search only behind the first match. -/
def chase (lines : List (List Char)) (patterns : List Regex) (stop : Option Regex) :
    Option Located :=
  match patterns with
  | [] => none
  | re :: rest =>
    match seek re none 0 0 lines with
    | some found => chaseOn lines stop found rest
    | none => none

end Locate

namespace Document

/-- The match of the last of some patterns that are found one after the other. -/
def locate? (d : Document) (patterns : List Regex) (stop : Option Regex) : Option Located :=
  Locate.chase (Text.lines d.chars) patterns stop

def linesMatching (d : Document) (re : Regex) : List Nat :=
  ((Text.lines d.chars).zipIdx.filter fun (line, _) => re.matchesIn line).map Prod.snd

/-- A literal text as it is looked for: one line feed at its end does not count. -/
def needle (text : String) : List Char := Text.dropLastIf '\n' text.toList

def findLiteral? (d : Document) (text : String) : Option Nat := Text.find? (needle text) d.chars

def holdsLiteral (d : Document) (text : String) : Bool := (d.findLiteral? text).isSome

end Document

/-- A match with its place in the text. -/
structure Enclosing where
  captured : Captured
  span : Span
  deriving DecidableEq, Repr

namespace Locate

/-- Of all matches in a text the last one that holds the cursor. A cursor at either end of a match
is held by it. -/
def enclosing? (text : List Char) (re : Regex) (cursor : Nat) : Option Enclosing :=
  let reached := (re.allMatches text).takeWhile fun m => (Regex.Spans.whole m).start ≤ cursor
  let covering := reached.filter fun m => cursor ≤ (Regex.Spans.whole m).stop
  covering.getLast?.map fun m => ⟨.ofSpans re text m, Regex.Spans.whole m⟩

end Locate

end QuickFix
