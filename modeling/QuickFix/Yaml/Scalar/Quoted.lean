import QuickFix.Json.Parser
import QuickFix.Yaml.Scalar.Gap

/-!
Quoted scalars. Between single quotes a quote is written twice and all else stands for itself;
between double quotes a backslash begins an escape, and takes the line break behind it away.
-/

namespace QuickFix.Yaml.QuotedScalar

/-- The characters that a backslash gives a meaning. -/
def simpleEscape? : Char → Option Char
  | '0' => some '\x00'
  | 'a' => some '\x07'
  | 'b' => some '\x08'
  | 't' => some '\t'
  | '\t' => some '\t'
  | 'n' => some '\n'
  | 'v' => some '\x0b'
  | 'f' => some '\x0c'
  | 'r' => some '\r'
  | 'e' => some '\x1b'
  | ' ' => some ' '
  | '"' => some '"'
  | '/' => some '/'
  | '\\' => some '\\'
  | 'N' => some '\u0085'
  | '_' => some '\u00a0'
  | 'L' => some '\u2028'
  | 'P' => some '\u2029'
  | _ => none

/-- The number of digits of an escape by code. -/
def codeLength? : Char → Option Nat
  | 'x' => some 2
  | 'u' => some 4
  | 'U' => some 8
  | _ => none

/-- The character of a code in hexadecimal digits, unless it is a surrogate or too large. -/
def charOfCode? (digits : List Char) : Option Char := do
  let values ← digits.mapM Json.hexValue?
  let n := values.foldl (fun n d => n * 16 + d) 0
  if (0xD800 ≤ n && n ≤ 0xDFFF) || 0x10FFFF < n then none else return Char.ofNat n

/-- Reads an escape behind its backslash: the character, and the number of characters read. -/
def escape? : List Char → Option (Char × Nat)
  | [] => none
  | e :: rest =>
    match codeLength? e with
    | some n =>
      if (rest.take n).length = n then (charOfCode? (rest.take n)).map fun c => (c, n + 1) else none
    | none => (simpleEscape? e).map fun c => (c, 1)

/-- The quotes that a scalar may have. -/
inductive Quote where
  | single
  | double
  deriving DecidableEq, Repr

def Quote.char : Quote → Char
  | .single => '\''
  | .double => '"'

/-- A stretch without blanks: its text, where it ends, and whether it ends with a line break that is
taken away. -/
structure Stretch where
  text : List Char
  stop : Cursor
  joined : Bool

/-- Reads a stretch up to a blank, a line break or the closing quote. Each step takes a character,
so the length of the text is fuel enough. -/
def readStretch (q : Quote) : (fuel : Nat) → Cursor → Except Error Stretch
  | 0, c => .ok ⟨[], c, false⟩
  | fuel + 1, c =>
    let add (ch : Char) (count : Nat) : Except Error Stretch := do
      let more ← readStretch q fuel (c.skip count)
      return { more with text := ch :: more.text }
    match c.rest with
    | [] => .ok ⟨[], c, false⟩
    | ch :: rest =>
      if isSpace ch || isBreak ch then .ok ⟨[], c, false⟩
      else if q = .single && ch = '\'' && rest.head? = some '\'' then add '\'' 2
      else if ch = q.char then .ok ⟨[], c, false⟩
      else if q = .double && ch = '\\' then
        if rest.head?.any isBreak then .ok ⟨[], (c.skip 1).skipBreak, true⟩
        else
          match escape? rest with
          | some (e, count) => add e (count + 1)
          | none => .error .malformedEscape
      else add ch 1

/-- Reads a quoted scalar behind its opening quote. -/
def readFrom (q : Quote) : (fuel : Nat) → Cursor → Except Error (List Char × Cursor)
  | 0, _ => .error .unclosedScalar
  | fuel + 1, c => do
    if c.atAnyMarker || c.rest.isEmpty then throw .unclosedScalar
    let s ← readStretch q c.rest.length c
    if s.stop.next = some q.char then return (s.text, s.stop.skip 1)
    let (g, c) ← Gap.read 0 s.stop.rest.length { broken := s.joined } s.stop
    let (more, stop) ← readFrom q fuel c
    return (s.text ++ g.text ++ more, stop)

/-- Reads a quoted scalar from its opening quote on. -/
def read (q : Quote) (c : Cursor) : Except Error (List Char × Cursor) :=
  readFrom q c.rest.length (c.skip 1)

end QuickFix.Yaml.QuotedScalar
