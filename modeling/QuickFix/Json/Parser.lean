import QuickFix.Json.Number

/-!
Reading JSON. Lists and objects may be nested `maxDepth` deep. Numbers must be finite, strings hold
no control characters and no half of a surrogate pair, and nothing but blanks may follow the value.
-/

namespace QuickFix.Json

/-- Why a text is not JSON. -/
inductive Error where
  | malformed
  | tooDeep
  | numberOutOfRange
  deriving DecidableEq, Repr

/-- The number of lists and objects that may be open at once. -/
def maxDepth : Nat := 127

/-- The blanks between the parts of a value. -/
def isSpace (c : Char) : Bool := c = ' ' || c = '\n' || c = '\t' || c = '\r'

def skipSpace (cs : List Char) : List Char := cs.dropWhile isSpace

def digit? (c : Char) : Option Nat :=
  if '0' ≤ c ∧ c ≤ '9' then some (c.toNat - 48) else none

def hexValue? (c : Char) : Option Nat :=
  if '0' ≤ c ∧ c ≤ '9' then some (c.toNat - 48)
  else if 'a' ≤ c ∧ c ≤ 'f' then some (c.toNat - 87)
  else if 'A' ≤ c ∧ c ≤ 'F' then some (c.toNat - 55)
  else none

/-- The digits at the start of a text, and what follows them. -/
def readDigits : List Char → List Nat × List Char
  | [] => ([], [])
  | c :: cs =>
    match digit? c with
    | some d =>
      let (ds, rest) := readDigits cs
      (d :: ds, rest)
    | none => ([], c :: cs)

def ofDigits (ds : List Nat) : Nat := ds.foldl (fun n d => n * 10 + d) 0

/-- Reads the fraction of a number, if a point follows. -/
def readFraction : List Char → Except Error (Option (List Nat) × List Char)
  | '.' :: cs =>
    match readDigits cs with
    | ([], _) => .error .malformed
    | (ds, rest) => .ok (some ds, rest)
  | cs => .ok (none, cs)

/-- Reads the exponent of a number, if one follows. -/
def readExponent : List Char → Except Error (Option Int × List Char)
  | c :: cs =>
    if c = 'e' ∨ c = 'E' then
      let (negative, digits) :=
        match cs with
        | '+' :: rest => (false, rest)
        | '-' :: rest => (true, rest)
        | _ => (false, cs)
      match readDigits digits with
      | ([], _) => .error .malformed
      | (ds, rest) => .ok (some (if negative then -(ofDigits ds : Int) else ofDigits ds), rest)
    else .ok (none, c :: cs)
  | [] => .ok (none, [])

/-- Reads a number behind its sign. -/
def readNumber (negative : Bool) (cs : List Char) : Except Error (Json × List Char) := do
  let (whole, rest) := readDigits cs
  match whole with
  | [] => throw .malformed
  | 0 :: _ :: _ => throw .malformed
  | _ => pure ()
  let (fraction, rest) ← readFraction rest
  let (exponent, rest) ← readExponent rest
  match Numeral.number? ⟨negative, whole, fraction, exponent⟩ with
  | some n => pure (number n, rest)
  | none => throw .numberOutOfRange

/-- Reads the four digits of a code unit. -/
def readUnit : List Char → Option (Nat × List Char)
  | a :: b :: c :: d :: rest => do
    let a ← hexValue? a
    let b ← hexValue? b
    let c ← hexValue? c
    let d ← hexValue? d
    return (((a * 16 + b) * 16 + c) * 16 + d, rest)
  | _ => none

/-- Reads the character that an escape with code units stands for: a unit outside the surrogates, or
a pair of them. -/
def readUnicode (cs : List Char) : Option (Char × List Char) := do
  let (first, rest) ← readUnit cs
  if first < 0xD800 || 0xE000 ≤ first then return (Char.ofNat first, rest)
  if 0xDC00 ≤ first then none
  match rest with
  | '\\' :: 'u' :: more =>
    let (second, rest) ← readUnit more
    if second < 0xDC00 || 0xE000 ≤ second then none
    return (Char.ofNat (0x10000 + (first - 0xD800) * 0x400 + (second - 0xDC00)), rest)
  | _ => none

/-- The characters that a backslash gives a meaning. -/
def simpleEscape? : Char → Option Char
  | '"' => some '"'
  | '\\' => some '\\'
  | '/' => some '/'
  | 'b' => some '\x08'
  | 'f' => some '\x0c'
  | 'n' => some '\n'
  | 'r' => some '\r'
  | 't' => some '\t'
  | _ => none

/-- Reads a string behind its opening quote. Each step takes at least one character, so the length
of the text is fuel enough. -/
def readString : (fuel : Nat) → List Char → Except Error (List Char × List Char)
  | 0, _ => .error .malformed
  | fuel + 1, cs =>
    match cs with
    | [] => .error .malformed
    | '"' :: rest => .ok ([], rest)
    | '\\' :: 'u' :: rest =>
      match readUnicode rest with
      | some (c, rest) => do
        let (tail, rest) ← readString fuel rest
        return (c :: tail, rest)
      | none => .error .malformed
    | '\\' :: e :: rest =>
      match simpleEscape? e with
      | some c => do
        let (tail, rest) ← readString fuel rest
        return (c :: tail, rest)
      | none => .error .malformed
    | c :: rest =>
      if c.toNat < 0x20 ∨ c = '\\' then .error .malformed
      else do
        let (tail, rest) ← readString fuel rest
        return (c :: tail, rest)

def readQuoted (cs : List Char) : Except Error (String × List Char) := do
  let (value, rest) ← readString (cs.length + 1) cs
  return (String.ofList value, rest)

/-- A reader of one value at the start of a text. -/
abbrev ValueReader := List Char → Except Error (Json × List Char)

/-- Reads the items of a list behind its first bracket or behind a comma. -/
def readItems (value : ValueReader) : (fuel : Nat) → List Char →
    Except Error (List Json × List Char)
  | 0, _ => .error .malformed
  | fuel + 1, cs => do
    let (item, rest) ← value (skipSpace cs)
    match skipSpace rest with
    | ',' :: rest =>
      let (items, rest) ← readItems value fuel rest
      return (item :: items, rest)
    | ']' :: rest => return ([item], rest)
    | _ => throw .malformed

/-- Reads the members of an object behind its brace or behind a comma. -/
def readMembers (value : ValueReader) : (fuel : Nat) → List Char →
    Except Error (List (String × Json) × List Char)
  | 0, _ => .error .malformed
  | fuel + 1, cs => do
    match skipSpace cs with
    | '"' :: rest =>
      let (key, rest) ← readQuoted rest
      match skipSpace rest with
      | ':' :: rest =>
        let (item, rest) ← value (skipSpace rest)
        match skipSpace rest with
        | ',' :: rest =>
          let (members, rest) ← readMembers value fuel rest
          return ((key, item) :: members, rest)
        | '\x7d' :: rest => return ([(key, item)], rest)
        | _ => throw .malformed
      | _ => throw .malformed
    | _ => throw .malformed

/-- Reads a value at the start of a text; `depth` lists and objects may still be opened. -/
def readValue : (depth : Nat) → ValueReader
  | depth, cs =>
    match cs with
    | 'n' :: 'u' :: 'l' :: 'l' :: rest => .ok (null, rest)
    | 't' :: 'r' :: 'u' :: 'e' :: rest => .ok (bool true, rest)
    | 'f' :: 'a' :: 'l' :: 's' :: 'e' :: rest => .ok (bool false, rest)
    | '"' :: rest => do
      let (s, rest) ← readQuoted rest
      return (string s, rest)
    | '-' :: rest => readNumber true rest
    | '[' :: rest =>
      match depth with
      | 0 => .error .tooDeep
      | depth + 1 =>
        match skipSpace rest with
        | ']' :: rest => .ok (array [], rest)
        | rest => do
          let (items, rest) ← readItems (readValue depth) rest.length rest
          return (array items, rest)
    | '\x7b' :: rest =>
      match depth with
      | 0 => .error .tooDeep
      | depth + 1 =>
        match skipSpace rest with
        | '\x7d' :: rest => .ok (object [], rest)
        | rest => do
          let (pairs, rest) ← readMembers (readValue depth) rest.length rest
          return (object (membersOf pairs), rest)
    | rest => readNumber false rest

def parse (text : String) : Except Error Json := do
  let (value, rest) ← readValue maxDepth (skipSpace text.toList)
  if (skipSpace rest).isEmpty then return value else throw .malformed

end QuickFix.Json
