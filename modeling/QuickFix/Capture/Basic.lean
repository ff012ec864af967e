import QuickFix.Regex.Basic
import QuickFix.Text.Rewrite

/-!
Captured matches: the texts of the groups of a match, kept with the expression that found it. A
replacement string is written against a captured match: its tokens begin with a dollar sign and
stand for parts of the match.
-/

namespace QuickFix

/-- The texts of the groups of a match, the whole match first. -/
structure Captured where
  groups : List (Option String)
  pattern : Regex
  deriving DecidableEq, Repr

/-- A match of an expression in a text, to which replacement strings refer. -/
structure Expansion where
  text : List Char
  spans : Regex.Spans
  names : List (Option String)

namespace Expansion

/-- The text of a group; empty if it took no part. -/
def group (e : Expansion) (index : Nat) : List Char :=
  match e.spans[index]? with
  | some (some span) => span.slice e.text
  | _ => []

/-- The text of the group with a name; empty if there is none. -/
def named (e : Expansion) (name : String) : List Char :=
  match e.names.findIdx? (· == some name) with
  | some index => e.group index
  | none => []

/-- Whether a number is that of a group other than the whole match. -/
def hasGroup (e : Expansion) (index : Nat) : Bool := 1 ≤ index && index < e.spans.length

def digit? (c : Char) : Option Nat :=
  if '0' ≤ c ∧ c ≤ '9' then some (c.toNat - 48) else none

/-- The text of a group whose number has one digit, with the length of the token. -/
def oneDigit (e : Expansion) (index : Nat) : Option (List Char × Nat) :=
  if e.hasGroup index then some (e.group index, 2) else none

/-- The text of a group by its number, with the length of the token. Two digits are taken if there
is such a group, else one. -/
def numbered (e : Expansion) (first : Nat) (cs : List Char) : Option (List Char × Nat) :=
  match cs.head?.bind digit? with
  | some second =>
    if e.hasGroup (first * 10 + second) then some (e.group (first * 10 + second), 3)
    else e.oneDigit first
  | none => e.oneDigit first

/-- The text of a named group, with the length of the token. Names are read only if the expression
has any, and the name must end. -/
def byName (e : Expansion) (cs : List Char) : Option (List Char × Nat) :=
  if e.names.any Option.isSome && cs.contains '>' then
    let name := cs.takeWhile (· ≠ '>')
    some (e.named (String.ofList name), name.length + 3)
  else none

/-- The tokens of replacement strings: `$$` is a dollar sign, `$&` the match, a backquote or an
apostrophe behind the dollar sign the text before or behind it, a number or a name in angles a
group. -/
def token (e : Expansion) : Text.TokenReader
  | '$' :: c :: cs =>
    if c = '$' then some (['$'], 2)
    else if c = '&' then some (e.group 0, 2)
    else if c = '\x60' then some (e.text.take (Regex.Spans.whole e.spans).start, 2)
    else if c = '\'' then some (e.text.drop (Regex.Spans.whole e.spans).stop, 2)
    else if c = '<' then e.byName cs
    else
      match digit? c with
      | some first => e.numbered first cs
      | none => none
  | _ => none

/-- What a replacement string stands for. A dollar sign that begins no token stands for itself. -/
def expand (e : Expansion) (replacement : List Char) : List Char :=
  Text.rewrite e.token replacement

end Expansion

namespace Captured

def ofSpans (re : Regex) (text : List Char) (spans : Regex.Spans) : Captured where
  groups := spans.map fun s => s.map fun span => String.ofList (span.slice text)
  pattern := re

/-- The text of a group, if it took part in the match. -/
def group? (m : Captured) (index : Nat) : Option String := (m.groups[index]?).join

def matched (m : Captured) : String := (m.group? 0).getD ""

/-- Searches the matched text alone with the expression that found it, and puts what the replacement
string stands for in place of the first match. If there is none, as may happen to an expression that
looks around, the matched text is left as it is. -/
def substitute (m : Captured) (replacement : String) : String :=
  let text := m.matched.toList
  match m.pattern.matchFrom? text 0 with
  | none => m.matched
  | some spans =>
    let whole := Regex.Spans.whole spans
    let value := Expansion.expand ⟨text, spans, m.pattern.names⟩ replacement.toList
    String.ofList (text.take whole.start ++ value ++ text.drop whole.stop)

end Captured

end QuickFix
