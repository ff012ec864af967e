import QuickFix.Yaml.Reader

/-!
The document of a stream of tokens. A stream holds at most one document. Nodes that are missing are
read as empty scalars wherever the notation allows that.
-/

namespace QuickFix.Yaml

open Reader

/-- Where a node stands, which says how it may be written. -/
inductive Setting where
  | flow
  | block
  /-- At a key of a block, where the items of a list need not be indented. -/
  | entry
  deriving DecidableEq, Repr

abbrev NodeReader := Setting → Reader Node

/-- Reads a node, unless what follows shows that it is missing. -/
def orMissing (node : NodeReader) (setting : Setting) (stops : List Token) : Reader Node := do
  if ← atAny stops then return .missing else node setting

/-- Reads the items of a block. Each takes a token, so their number is fuel enough. -/
def readItems (node : NodeReader) : (fuel : Nat) → Reader (List Node)
  | 0 => throw .unexpectedToken
  | fuel + 1 => do
    if ← skipIf .blockEnd then return []
    expect .item
    let first ← orMissing node .block [.item, .blockEnd]
    return first :: (← readItems node fuel)

def readBareItems (node : NodeReader) : (fuel : Nat) → Reader (List Node)
  | 0 => throw .unexpectedToken
  | fuel + 1 => do
    if ← skipIf .item then
      let first ← orMissing node .block [.item, .key, .value, .blockEnd]
      return first :: (← readBareItems node fuel)
    else return []

def readEntries (node : NodeReader) : (fuel : Nat) → Reader (List (Node × Node))
  | 0 => throw .unexpectedToken
  | fuel + 1 => do
    if ← skipIf .blockEnd then return []
    let stops := [.key, .value, .blockEnd]
    expect .key
    let key ← orMissing node .entry stops
    let value ← if ← skipIf .value then orMissing node .entry stops else pure .missing
    return (key, value) :: (← readEntries node fuel)

/-- Passes over the comma between two items, and over one behind the last. -/
def separate (first : Bool) (close : Token) : Reader Unit := do
  if !first && !(← atAny [close]) then expect .comma

/-- Reads the value of an entry between brackets, if there is one. -/
def readFlowValue (node : NodeReader) (close : Token) : Reader Node := do
  if ← skipIf .value then orMissing node .flow [.comma, close] else return .missing

/-- Reads an entry that stands in a list between brackets, behind what announces its key. If the key
is missing, what follows in its place is passed over. -/
def readPair (node : NodeReader) : Reader Node := do
  let key ←
    if ← atAny [.value, .comma, .flowSequenceEnd] then do
      skip
      pure .missing
    else node .flow
  return .mapping {} [(key, ← readFlowValue node .flowSequenceEnd)]

def readFlowItems (node : NodeReader) : (fuel : Nat) → (first : Bool) → Reader (List Node)
  | 0, _ => throw .unexpectedToken
  | fuel + 1, first => do
    separate first .flowSequenceEnd
    if ← skipIf .flowSequenceEnd then return []
    let item ← if ← skipIf .key then readPair node else node .flow
    return item :: (← readFlowItems node fuel false)

def readFlowEntries (node : NodeReader) : (fuel : Nat) → (first : Bool) → Reader (List (Node × Node))
  | 0, _ => throw .unexpectedToken
  | fuel + 1, first => do
    separate first .flowMappingEnd
    if ← skipIf .flowMappingEnd then return []
    let entry ←
      if ← skipIf .key then do
        let key ← orMissing node .flow [.value, .comma, .flowMappingEnd]
        pure (key, ← readFlowValue node .flowMappingEnd)
      else do pure (← node .flow, .missing)
    return entry :: (← readFlowEntries node fuel false)

/-- The ways to write a list or a mapping. -/
inductive Collection where
  | items
  | bareItems
  | entries
  | flowItems
  | flowEntries
  deriving DecidableEq, Repr

/-- What a token begins. -/
def Collection.at? : Setting → Token → Option Collection
  | .entry, .item => some bareItems
  | _, .flowSequenceStart => some flowItems
  | _, .flowMappingStart => some flowEntries
  | .flow, _ => none
  | _, .blockSequenceStart => some items
  | _, .blockMappingStart => some entries
  | _, _ => none

/-- Reads a list or a mapping from its start on. -/
def Collection.read (node : NodeReader) (p : Properties) (collection : Collection) : Reader Node := do
  let fuel ← left
  match collection with
  | .bareItems => return .sequence p (← readBareItems node (fuel + 1))
  | .items =>
    skip
    return .sequence p (← readItems node fuel)
  | .entries =>
    skip
    return .mapping p (← readEntries node fuel)
  | .flowItems =>
    skip
    return .sequence p (← readFlowItems node fuel true)
  | .flowEntries =>
    skip
    return .mapping p (← readFlowEntries node fuel true)

/-- Reads a node; `depth` lists and mappings may still be opened. Where only properties stand, they
belong to an empty scalar. -/
def readNode (handles : Handles) : (depth : Nat) → NodeReader
  | depth, setting => do
    if let some (.reference name) ← next then
      skip
      return .reference (← numberOf name)
    let written ← readProperties handles
    let token ← next
    if let some (.scalar text plain) := token then
      skip
      return .scalar written.ofScalar text plain
    match token.bind (Collection.at? setting) with
    | some collection =>
      match depth with
      | 0 => throw .tooDeep
      | depth + 1 => collection.read (readNode handles depth) written.meaning
    | none => if written.isEmpty then throw .unexpectedToken else return .scalar written.meaning [] true

/-- The number of lists and mappings that may be open at once. -/
def maxDepth : Nat := 128

/-- The directives in front of a document: whether there was one for the version, and the handles
that they declare. -/
structure Directives where
  hasVersion : Bool := false
  handles : Handles := []

/-- Takes in a directive. The version must be one of the two that are known, and be asked for once;
a handle must be declared once. -/
def Directives.add (d : Directives) : Token → Except Error (Option Directives)
  | .version major minor =>
    if d.hasVersion || major ≠ 1 || (minor ≠ 1 && minor ≠ 2) then .error .malformedDirective
    else .ok (some { d with hasVersion := true })
  | .handle name meaning =>
    if (d.handles.lookup name).isSome then .error .malformedDirective
    else .ok (some { d with handles := (name, meaning) :: d.handles })
  | _ => .ok none

/-- Takes the directives off some tokens. -/
def readDirectives (d : Directives) : List Token → Except Error (Directives × List Token)
  | [] => .ok (d, [])
  | token :: rest => do
    match ← d.add token with
    | some d => readDirectives d rest
    | none => return (d, token :: rest)

/-- Whether a document is empty because of what follows its start. -/
def isEmptyDocument : List Token → Bool
  | [] => true
  | token :: _ =>
    match token with
    | .version _ _ | .handle _ _ | .documentStart | .documentEnd => true
    | _ => false

/-- The document that some tokens make up, if there is one. The start of a document may be left out
if there are no directives; nothing but ends may follow a document. -/
def document? (tokens : List Token) : Except Error (Option Node) := do
  if tokens.isEmpty then return none
  let (directives, behind) ← readDirectives {} tokens
  let explicit := behind.head? = some .documentStart
  if !explicit && behind.length ≠ tokens.length then throw .malformedDirective
  let content := if explicit then behind.drop 1 else behind
  let node : Reader Node :=
    if explicit && isEmptyDocument content then pure .missing
    else readNode (directives.handles ++ standardHandles) maxDepth .block
  let (root, reading) ← node.run { tokens := content }
  if reading.tokens.all (· = .documentEnd) then return some root else throw .severalDocuments

end QuickFix.Yaml
