import QuickFix.Yaml.Tag

/-!
Tokens: what a document is made of once its indentation is understood. Blocks have a start and an
end like brackets, and every key is announced.
-/

namespace QuickFix.Yaml

/-- The unit of a document. -/
inductive Token where
  | version (major minor : Nat)
  | handle (name : List Char) (meaning : List UInt8)
  | documentStart
  | documentEnd
  | blockSequenceStart
  | blockMappingStart
  | blockEnd
  | flowSequenceStart
  | flowSequenceEnd
  | flowMappingStart
  | flowMappingEnd
  /-- The dash in front of an item of a block. -/
  | item
  /-- The comma behind an item between brackets. -/
  | comma
  | key
  | value
  /-- An alias: what stands for a node with an anchor. -/
  | reference (name : List Char)
  | anchor (name : List Char)
  | tag (written : WrittenTag)
  /-- A scalar, and whether it has no quotes and no header. -/
  | scalar (text : List Char) (plain : Bool)
  deriving DecidableEq, Repr

namespace Token

/-- The characters that may follow a name without a blank. -/
def nameEnds : List Char := ['?', ':', ',', ']', '\x7d', '%', '@', '\x60']

/-- Reads the name of an anchor or an alias behind its first character. -/
def readName (c : Cursor) : Except Error (List Char × Cursor) :=
  let name := (c.skip 1).takeWhile isNameChar
  let stop := c.skip (name.length + 1)
  if name.isEmpty then .error .malformedAnchor
  else if endsWord stop.next || nameEnds.any fun e => stop.next = some e then .ok (name, stop)
  else .error .malformedAnchor

/-- Reads a number of at most nine digits. -/
def readNumber (c : Cursor) : Except Error (Nat × Cursor) :=
  let digits := c.takeWhile Char.isDigit
  if digits.isEmpty || 9 < digits.length then .error .malformedDirective
  else .ok (digits.foldl (fun n d => n * 10 + (d.toNat - 48)) 0, c.skip digits.length)

def readVersion (c : Cursor) : Except Error (Token × Cursor) := do
  let (major, c) ← readNumber c.skipSpaces
  if c.next ≠ some '.' then throw .malformedDirective
  let (minor, c) ← readNumber (c.skip 1)
  return (version major minor, c)

/-- Reads the handle that a directive declares, and its meaning. -/
def readHandle (c : Cursor) : Except Error (Token × Cursor) := do
  let (name, c) ← WrittenTag.readHandle c.skipSpaces
  if name.getLast? ≠ some '!' || !c.next.any isSpace then throw .malformedDirective
  let (meaning, c) ← WrittenTag.readText true c.skipSpaces
  if endsWord c.next then return (handle name meaning, c) else throw .malformedDirective

/-- Reads a directive with the rest of its line. -/
def readDirective (c : Cursor) : Except Error (Token × Cursor) := do
  let name := (c.skip 1).takeWhile isNameChar
  let c := c.skip (name.length + 1)
  if !endsWord c.next then throw .malformedDirective
  let (token, c) ←
    match String.ofList name with
    | "YAML" => readVersion c
    | "TAG" => readHandle c
    | _ => throw .malformedDirective
  let c := c.skipComment
  if endsLine c.next then return (token, c.skipBreak) else throw .malformedDirective

end Token

end QuickFix.Yaml
