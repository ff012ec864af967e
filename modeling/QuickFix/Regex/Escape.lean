import QuickFix.Regex.Flags
import QuickFix.Regex.NamedClass
import QuickFix.Regex.Node
import QuickFix.Text.Blank

/-!
The smallest parts of a pattern: single characters, escapes, classes of one letter and assertions.
Readers answer with what they read and the rest of the pattern, or with nothing if the pattern is
not well formed.
-/

namespace QuickFix.Regex

/-- What follows a comment: everything behind the next line feed. -/
def skipComment : List Char → List Char
  | [] => []
  | '\n' :: cs => cs
  | _ :: cs => skipComment cs

theorem length_skipComment_le (cs : List Char) : (skipComment cs).length ≤ cs.length := by
  induction cs with
  | nil => simp [skipComment]
  | cons c cs ih =>
    unfold skipComment
    split <;> simp_all
    omega

/-- What follows blanks and comments, where a pattern is written with them. -/
def skipBlanks (flags : Flags) (cs : List Char) : List Char :=
  match cs with
  | [] => []
  | c :: rest =>
    if flags.spaced then
      if Text.isBlank c then skipBlanks flags rest
      else if c = '#' then skipBlanks flags (skipComment rest)
      else c :: rest
    else c :: rest
termination_by cs.length
decreasing_by
  · simp
  · have := length_skipComment_le rest
    simp only [List.length_cons]
    omega

/-- The smallest part of a pattern. -/
inductive Primitive where
  /-- A character; `isByte` tells whether it was written as a byte of two hexadecimal digits. -/
  | literal (c : Char) (isByte : Bool)
  /-- A class of one letter. -/
  | perl (s ascii : CharSet) (negated : Bool)
  /-- A class named by a property. -/
  | property (s : CharSet) (negated : Bool)
  | assertion (a : Assertion)
  | dot

/-- The characters with a meaning in patterns, which a backslash takes away. -/
def isMeta (c : Char) : Bool :=
  ['\\', '.', '+', '*', '?', '(', ')', '|', '[', ']', '\x7b', '\x7d', '^', '$', '#', '&', '-',
    '~'].contains c

/-- The characters that a backslash may stand in front of without changing them. -/
def isEscapable (c : Char) : Bool :=
  isMeta c || (c.toNat < 0x80 && !c.isAlphanum && c ≠ '<' && c ≠ '>')

def hexDigit? (c : Char) : Option Nat :=
  if '0' ≤ c ∧ c ≤ '9' then some (c.toNat - 48)
  else if 'a' ≤ c ∧ c ≤ 'f' then some (c.toNat - 87)
  else if 'A' ≤ c ∧ c ≤ 'F' then some (c.toNat - 55)
  else none

/-- The character of a code point, if there is one. -/
def charOf? (n : Nat) : Option Char := if n.isValidChar then some (Char.ofNat n) else none

/-- Reads a code point of exactly `count` more hexadecimal digits. -/
def readHexDigits (flags : Flags) : (count : Nat) → (value : Nat) → List Char →
    Option (Nat × List Char)
  | 0, value, cs => some (value, cs)
  | count + 1, value, cs =>
    match cs with
    | [] => none
    | c :: rest => do
      let d ← hexDigit? c
      readHexDigits flags count (value * 16 + d) (skipBlanks flags rest)

/-- Reads the hexadecimal digits up to a closing brace; there must be one. -/
def readHexBraced (flags : Flags) : (fuel : Nat) → (digits : List Nat) → List Char →
    Option (Nat × List Char)
  | 0, _, _ => none
  | fuel + 1, digits, cs =>
    match cs with
    | [] => none
    | c :: rest =>
      if c = '\x7d' then
        if digits.isEmpty then none
        else some (digits.reverse.foldl (fun n d => n * 16 + d) 0, skipBlanks flags rest)
      else do
        let d ← hexDigit? c
        readHexBraced flags fuel (d :: digits) (skipBlanks flags rest)

/-- Reads a character written by its code point behind the letter that says how many digits it has.
-/
def readHex (flags : Flags) (width : Nat) (cs : List Char) : Option (Primitive × List Char) :=
  match skipBlanks flags cs with
  | [] => none
  | '\x7b' :: rest => do
    let (n, rest) ← readHexBraced flags (rest.length + 1) [] (skipBlanks flags rest)
    let c ← charOf? n
    return (.literal c false, rest)
  | rest => do
    let (n, rest) ← readHexDigits flags width 0 rest
    let c ← charOf? n
    return (.literal c (width = 2), rest)

/-- Reads the name of a property up to the closing brace. -/
def readPropertyName (flags : Flags) : (fuel : Nat) → List Char → Option (List Char × List Char)
  | 0, _ => none
  | fuel + 1, cs =>
    match cs with
    | [] => none
    | c :: rest =>
      if c = '\x7d' then some ([], rest)
      else do
        let (name, rest) ← readPropertyName flags fuel (skipBlanks flags rest)
        return (c :: name, rest)

/-- Cuts a text where a mark first stands in it. -/
def cutAt? (mark : List Char) : List Char → Option (List Char × List Char)
  | [] => none
  | c :: cs =>
    if mark.isPrefixOf (c :: cs) then some ([], (c :: cs).drop mark.length)
    else (cutAt? mark cs).map fun (before, after) => (c :: before, after)

/-- The class that the text between the braces names. -/
def propertyOf? (name : List Char) (negated : Bool) : Option Primitive :=
  match cutAt? ['!', '='] name with
  | some (p, v) => (classValued? p v).map fun s => .property s !negated
  | none =>
    match cutAt? [':'] name with
    | some (p, v) => (classValued? p v).map fun s => .property s negated
    | none =>
      match cutAt? ['='] name with
      | some (p, v) => (classValued? p v).map fun s => .property s negated
      | none => (classNamed? name).map fun s => .property s negated

/-- Reads a class named by a property behind the letter `p`. -/
def readProperty (flags : Flags) (negated : Bool) (cs : List Char) :
    Option (Primitive × List Char) :=
  match skipBlanks flags cs with
  | [] => none
  | '\x7b' :: rest => do
    let (name, rest) ← readPropertyName flags (rest.length + 1) (skipBlanks flags rest)
    let p ← propertyOf? name negated
    return (p, rest)
  | c :: rest => do
    if c = '\\' then none
    let s ← classNamed? [c]
    return (.property s negated, skipBlanks flags rest)

def readBoundaryName (flags : Flags) : (fuel : Nat) → List Char → List Char × List Char
  | 0, cs => ([], cs)
  | fuel + 1, cs =>
    match cs with
    | [] => ([], [])
    | c :: rest =>
      if c.isAlpha ∨ c = '-' then
        let (name, rest) := readBoundaryName flags fuel (skipBlanks flags rest)
        (c :: name, rest)
      else ([], c :: rest)

/-- Reads what makes a word boundary special behind its opening brace. What begins otherwise than
with a letter or hyphen is left to be read as a repetition. -/
def readBoundary (flags : Flags) (ascii : Bool) (cs : List Char) :
    Option (Primitive × List Char) :=
  match cs with
  | '\x7b' :: rest =>
    match skipBlanks flags rest with
    | [] => none
    | c :: more =>
      if c.isAlpha ∨ c = '-' then
        match readBoundaryName flags (more.length + 1) (c :: more) with
        | (name, '\x7d' :: rest) =>
          match String.ofList name with
          | "start" => some (.assertion (.wordStart ascii), rest)
          | "end" => some (.assertion (.wordEnd ascii), rest)
          | "start-half" => some (.assertion (.wordStartHalf ascii), rest)
          | "end-half" => some (.assertion (.wordEndHalf ascii), rest)
          | _ => none
        | _ => none
      else some (.assertion (.boundary ascii), cs)
  | _ => some (.assertion (.boundary ascii), cs)

def readEscape (flags : Flags) (cs : List Char) : Option (Primitive × List Char) :=
  let ascii := !flags.unicode
  match cs with
  | [] => none
  | c :: rest =>
    match c with
    | 'x' => readHex flags 2 rest
    | 'u' => readHex flags 4 rest
    | 'U' => readHex flags 8 rest
    | 'p' => readProperty flags false rest
    | 'P' => readProperty flags true rest
    | 'd' => some (.perl .digit .asciiDigit false, rest)
    | 'D' => some (.perl .digit .asciiDigit true, rest)
    | 's' => some (.perl .space .asciiSpace false, rest)
    | 'S' => some (.perl .space .asciiSpace true, rest)
    | 'w' => some (.perl .word .asciiWord false, rest)
    | 'W' => some (.perl .word .asciiWord true, rest)
    | 'a' => some (.literal '\x07' false, rest)
    | 'f' => some (.literal '\x0c' false, rest)
    | 't' => some (.literal '\t' false, rest)
    | 'n' => some (.literal '\n' false, rest)
    | 'r' => some (.literal '\r' false, rest)
    | 'v' => some (.literal '\x0b' false, rest)
    | 'A' => some (.assertion .textStart, rest)
    | 'z' => some (.assertion .textEnd, rest)
    | 'b' => readBoundary flags ascii rest
    | 'B' => some (.assertion (.noBoundary ascii), rest)
    | '<' => some (.assertion (.wordStart ascii), rest)
    | '>' => some (.assertion (.wordEnd ascii), rest)
    | _ => if isEscapable c then some (.literal c false, rest) else none

end QuickFix.Regex
