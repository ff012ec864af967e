import QuickFix.Regex.Parser
import QuickFix.Regex.Search

/-!
Regular expressions and their matches. Of all matches the one that starts first is found, and of
those the one that the expression prefers. Places count characters.
-/

namespace QuickFix

/-- A stretch of a text between two places. -/
structure Span where
  start : Nat
  stop : Nat
  deriving DecidableEq, Repr, Inhabited

def Span.slice (s : Span) (text : List Char) : List Char := (text.drop s.start).take (s.stop - s.start)

/-- A regular expression that was read from its source. -/
structure Regex where
  source : String
  program : Array Regex.Inst
  /-- The names of the groups, from group 0 on, which is the whole match and has none. -/
  names : List (Option String)
  deriving DecidableEq, Repr

namespace Regex

/-- The names of the groups of an expression, up to the last group in it. -/
def groupNames (n : Node) : List (Option String) :=
  let groups := n.groups
  let last := groups.foldl (fun m g => max m g.1) 0
  (List.range (last + 1)).map fun i => (groups.find? fun g => g.1 = i).bind Prod.snd

/-- The regular expression of a pattern, if the pattern is well formed and not too large. -/
def compile? (pattern : String) : Option Regex := do
  let n ← parse pattern
  if n.weight ≤ programLimit then return ⟨pattern, n.program, groupNames n⟩ else none

/-- The number of groups, the whole match included. -/
def groupCount (re : Regex) : Nat := re.names.length

/-- The spans of the groups of a match, from the whole match on; a group that took no part has none.
-/
abbrev Spans := List (Option Span)

/-- The spans between slots that were noted in pairs. -/
def spansOf : Slots → Spans
  | some a :: some b :: rest => some ⟨a, b⟩ :: spansOf rest
  | _ :: _ :: rest => none :: spansOf rest
  | _ => []

/-- The spans of the first match that starts at `start` or behind it. -/
def matchFrom? (re : Regex) (text : List Char) (start : Nat) : Option Spans :=
  (search re.program (2 * re.groupCount) text.toArray start).map spansOf

def Spans.whole (spans : Spans) : Span :=
  match spans with
  | some s :: _ => s
  | _ => ⟨0, 0⟩

def matchesIn (re : Regex) (text : List Char) : Bool := (re.matchFrom? text 0).isSome

/-- The next match behind one that ended at `stop`: an empty match there does not count. -/
def nextMatch? (re : Regex) (text : List Char) (stop : Nat) : Option Spans :=
  match re.matchFrom? text stop with
  | none => none
  | some spans =>
    if Spans.whole spans = ⟨stop, stop⟩ then re.matchFrom? text (stop + 1) else some spans

/-- A match and all that follow it, as long as `fuel` lasts. -/
def matchesBehind (re : Regex) (text : List Char) : (fuel : Nat) → Option Spans → List Spans
  | 0, _ => []
  | _, none => []
  | fuel + 1, some spans =>
    spans :: re.matchesBehind text fuel (re.nextMatch? text (Spans.whole spans).stop)

/-- All matches that do not overlap, from left to right. Each but the first ends further right than
the one before, so there are at most two more of them than characters. -/
def allMatches (re : Regex) (text : List Char) : List Spans :=
  re.matchesBehind text (text.length + 2) (re.matchFrom? text 0)

end Regex

end QuickFix
