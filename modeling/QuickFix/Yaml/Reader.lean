import QuickFix.Yaml.Node

/-!
Readers of parts of a document: what they have in common, and what may stand in front of every node.
-/

namespace QuickFix.Yaml

/-- What is left to read, and the numbers of the names of anchors so far. -/
structure Reading where
  tokens : List Token
  names : List (List Char × Nat) := []

/-- A reader of a part of a document. -/
abbrev Reader (α : Type) := StateT Reading (Except Error) α

namespace Reader

def next : Reader (Option Token) := do return (← get).tokens.head?

def skip : Reader Unit := modify fun r => { r with tokens := r.tokens.tail }

/-- Passes over a token if it is the one that is asked for. -/
def skipIf (token : Token) : Reader Bool := do
  if (← next) = some token then
    skip
    return true
  else return false

/-- Passes over a token that must come here. -/
def expect (token : Token) : Reader Unit := do
  if !(← skipIf token) then throw .unexpectedToken

/-- Whether one of some tokens follows. -/
def atAny (stops : List Token) : Reader Bool := do
  return (← next).any stops.contains

def left : Reader Nat := do return (← get).tokens.length

/-- Gives a name its number. -/
def declare (name : List Char) : Reader Nat := do
  let r ← get
  let number := r.names.length
  set { r with names := (name, number) :: r.names.filter fun (n, _) => n ≠ name }
  return number

/-- The number of a name. -/
def numberOf (name : List Char) : Reader Nat := do
  match (← get).names.lookup name with
  | some number => return number
  | none => throw (.unknownAlias (String.ofList name))

end Reader

open Reader

/-- The meanings of handles. -/
abbrev Handles := List (List Char × List UInt8)

/-- The handles that need no directive. -/
def standardHandles : Handles :=
  [(['!'], Text.bytesOf ['!']), (['!', '!'], Tag.standard)]

/-- The text of a tag. -/
def WrittenTag.bytes (handles : Handles) (tag : WrittenTag) : Except Error (List UInt8) :=
  if tag.handle.isEmpty then .ok tag.suffix
  else
    match handles.lookup tag.handle with
    | some meaning => .ok (meaning ++ tag.suffix)
    | none => .error (.unknownHandle (String.ofList tag.handle))

/-- The anchor and the tag of a node as they are written. -/
structure WrittenProperties where
  anchor : Option Nat := none
  tag : Option (List UInt8) := none

def readTag? (handles : Handles) : Reader (Option (List UInt8)) := do
  match ← next with
  | some (.tag written) =>
    skip
    return some (← written.bytes handles)
  | _ => return none

def readAnchor? : Reader (Option Nat) := do
  match ← next with
  | some (.anchor name) =>
    skip
    return some (← declare name)
  | _ => return none

/-- Reads the properties of a node, in either order. -/
def readProperties (handles : Handles) : Reader WrittenProperties := do
  match ← readAnchor? with
  | some anchor => return ⟨some anchor, ← readTag? handles⟩
  | none =>
    match ← readTag? handles with
    | some tag => return ⟨← readAnchor?, some tag⟩
    | none => return {}

/-- What the properties say. -/
def WrittenProperties.meaning (p : WrittenProperties) : Properties := ⟨p.anchor, p.tag.bind Tag.ofBytes⟩

/-- What the properties of a scalar say: an exclamation mark alone is no tag. -/
def WrittenProperties.ofScalar (p : WrittenProperties) : Properties :=
  if p.tag = some Tag.bare then ⟨p.anchor, none⟩ else p.meaning

/-- Whether there are no properties. -/
def WrittenProperties.isEmpty (p : WrittenProperties) : Bool := p.anchor.isNone && p.tag.isNone

end QuickFix.Yaml
