import QuickFix.Json.Parser
import QuickFix.Text.Utf8
import QuickFix.Yaml.Cursor

/-!
Tags: what a node says of its kind. A tag is written whole between angle brackets, or as a handle
with a suffix, where the handle stands for what a directive declares. Its text is taken byte by
byte, since escapes in it stand for bytes.
-/

namespace QuickFix.Yaml

/-- A tag as it is written. A tag that is written whole has no handle. -/
structure WrittenTag where
  handle : List Char
  suffix : List UInt8
  deriving DecidableEq, Repr

namespace WrittenTag

/-- Whether a character may stand in a tag as it is. -/
def isTagChar (whole : Bool) (c : Char) : Bool :=
  isNameChar c ||
    [';', '/', '?', ':', '@', '&', '=', '+', '$', '.', '!', '~', '*', '\'', '(', ')'].contains c ||
    (whole && (c = ',' || c = '[' || c = ']'))

/-- The byte of an escape: a percent sign and two hexadecimal digits. -/
def escapedByte? : List Char → Option Nat
  | '%' :: a :: b :: _ => do return (← Json.hexValue? a) * 16 + (← Json.hexValue? b)
  | _ => none

/-- The number of bytes of a character, by its first. -/
def width? (byte : Nat) : Option Nat :=
  if byte < 0x80 then some 1
  else if byte < 0xC0 then none
  else if byte < 0xE0 then some 2
  else if byte < 0xF0 then some 3
  else if byte < 0xF8 then some 4
  else none

/-- Reads the bytes of a character behind its first. -/
def continuation? : (count : Nat) → List Char → Option (List UInt8)
  | 0, _ => some []
  | count + 1, cs => do
    let byte ← escapedByte? cs
    if byte < 0x80 || 0xC0 ≤ byte then none
    else return byte.toUInt8 :: (← continuation? count (cs.drop 3))

/-- Reads the escapes of one character: its bytes, each of which takes three characters. -/
def escape? (cs : List Char) : Option (List UInt8) := do
  let byte ← escapedByte? cs
  let width ← width? byte
  return byte.toUInt8 :: (← continuation? (width - 1) (cs.drop 3))

/-- Reads the text of a tag. Each step takes a character, so the length of the text is fuel enough.
-/
def readBytes (whole : Bool) : (fuel : Nat) → Cursor → Except Error (List UInt8 × Cursor)
  | 0, c => .ok ([], c)
  | fuel + 1, c => do
    match c.next with
    | none => return ([], c)
    | some ch =>
      if ch = '%' then
        match escape? c.rest with
        | none => throw .malformedTag
        | some bytes =>
          let (more, stop) ← readBytes whole fuel (c.skip (3 * bytes.length))
          return (bytes ++ more, stop)
      else if isTagChar whole ch then
        let (more, stop) ← readBytes whole fuel (c.skip 1)
        return (ch.toNat.toUInt8 :: more, stop)
      else return ([], c)

/-- The bytes in front of the first zero: it ends a text. -/
def textBytes (bytes : List UInt8) : List UInt8 := bytes.takeWhile (· ≠ 0)

/-- Reads the text of a tag, which must not be empty. -/
def readText (whole : Bool) (c : Cursor) : Except Error (List UInt8 × Cursor) := do
  let (bytes, stop) ← readBytes whole c.rest.length c
  if bytes.isEmpty then throw .malformedTag else return (textBytes bytes, stop)

/-- Reads a handle: an exclamation mark, a name, and another mark if one follows. -/
def readHandle (c : Cursor) : Except Error (List Char × Cursor) :=
  if c.next = some '!' then
    let name := (c.skip 1).takeWhile isNameChar
    let stop := c.skip (name.length + 1)
    if stop.next = some '!' then .ok ('!' :: name ++ ['!'], stop.skip 1) else .ok ('!' :: name, stop)
  else .error .malformedTag

/-- Whether a handle has a mark at both ends. -/
def isNamed (handle : List Char) : Bool := 1 < handle.length && handle.getLast? = some '!'

/-- Reads a tag without looking at what follows it. -/
def readAny (c : Cursor) : Except Error (WrittenTag × Cursor) := do
  if c.ahead 1 = some '<' then
    let (bytes, stop) ← readText true (c.skip 2)
    if stop.next = some '>' then return (⟨[], bytes⟩, stop.skip 1) else throw .malformedTag
  else
    let (handle, stop) ← readHandle c
    if isNamed handle then
      let (bytes, stop) ← readText false stop
      return (⟨handle, bytes⟩, stop)
    else
      let (bytes, stop) ← readBytes false stop.rest.length stop
      let suffix := textBytes (Text.bytesOf (handle.drop 1) ++ bytes)
      if suffix.isEmpty then return (⟨[], Text.bytesOf ['!']⟩, stop)
      else return (⟨['!'], suffix⟩, stop)

/-- Reads a tag. A word must end behind it, or between brackets an item. -/
def read (inFlow : Bool) (c : Cursor) : Except Error (WrittenTag × Cursor) := do
  let (tag, stop) ← readAny c
  if endsWord stop.next || (inFlow && stop.next = some ',') then return (tag, stop)
  else throw .malformedTag

end WrittenTag

/-- What a tag says of a node. -/
inductive Tag where
  | bool
  | int
  | float
  | null
  /-- A kind of the document's own. -/
  | ownKind
  /-- Anything else. -/
  | other
  deriving DecidableEq, Repr

namespace Tag

/-- What the tags of the standard kinds begin with. -/
def standard : List UInt8 := Text.bytesOf "tag:yaml.org,2002:".toList

/-- The standard tag of a name. -/
def named (name : String) : List UInt8 := standard ++ Text.bytesOf name.toList

/-- The tag that means no kind. -/
def bare : List UInt8 := Text.bytesOf ['!']

def isText (bytes : List UInt8) : Bool := Text.bytesOf (Text.ofBytes bytes) = bytes

/-- What the text of a tag says. A tag of the document's own that is no text says nothing. -/
def ofBytes (bytes : List UInt8) : Option Tag :=
  if bytes = named "bool" then some bool
  else if bytes = named "int" then some int
  else if bytes = named "float" then some float
  else if bytes = named "null" then some null
  else if bytes.head? = bare.head? then (if isText bytes then some ownKind else none)
  else some other

end Tag

end QuickFix.Yaml
