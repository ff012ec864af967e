import QuickFix.Yaml.Token

/-!
The block structure that indentation means. A block is opened where its first item begins and closed
by the first line that begins before its column; between brackets indentation means nothing. What
may be a key is known as one only when its colon is found, so its place is noted, and the tokens
that announce it are put there later.
-/

namespace QuickFix.Yaml

/-- A place where a key may have begun. -/
structure KeyPlace where
  /-- The number of tokens in front of it. -/
  tokens : Nat
  start : Cursor
  /-- Whether nothing but a key can stand there: it begins at the column of its block. -/
  required : Bool

/-- The longest that a key may be, with what lies between it and its colon. -/
def KeyPlace.reach : Nat := 1024

/-- Whether a key that began at a place must have ended before here: keys do not go over the end of
a line. -/
def KeyPlace.isStale (place : KeyPlace) (here : Cursor) : Bool :=
  place.start.line < here.line || place.start.index + reach < here.index

/-- A text whose front has been made into tokens. -/
structure Layout where
  cursor : Cursor
  tokens : Array Token := #[]
  /-- The columns of the blocks that are open, the innermost first. -/
  columns : List Nat := []
  /-- Whether a key may begin here. -/
  keyAllowed : Bool := true
  /-- Where a key may have begun, within the innermost brackets. -/
  place : Option KeyPlace := none
  /-- Where keys may have begun, around each open bracket. -/
  around : List (Option KeyPlace) := []

namespace Layout

/-- Whether a bracket is open. -/
def inFlow (l : Layout) : Bool := !l.around.isEmpty

def column? (l : Layout) : Option Nat := l.columns.head?

/-- The least column of what lies in the innermost block. -/
def contentColumn (l : Layout) : Nat := (l.column?.map (· + 1)).getD 0

/-- Adds a token that was read up to a cursor. -/
def take (l : Layout) (read : Token × Cursor) : Layout :=
  { l with tokens := l.tokens.push read.1, cursor := read.2 }

/-- Adds a token of some characters. -/
def takeNext (l : Layout) (token : Token) (count : Nat) : Layout :=
  l.take (token, l.cursor.skip count)

/-- Closes the blocks that satisfy a condition, from the innermost on. -/
def closeWhile (l : Layout) (inside : Nat → Bool) : Layout :=
  if l.inFlow then l
  else
    let closed := l.columns.takeWhile inside
    { l with
      columns := l.columns.dropWhile inside
      tokens := l.tokens ++ (closed.map fun _ => Token.blockEnd).toArray }

/-- Closes the blocks that begin behind a column. -/
def closeBehind (l : Layout) (column : Nat) : Layout := l.closeWhile (column < ·)

def closeAll (l : Layout) : Layout := l.closeWhile fun _ => true

/-- Opens a block at a column, unless the innermost one begins there or behind; its start is put
behind the given number of tokens. -/
def openBlock (l : Layout) (column : Nat) (tokens : Nat) (start : Token) : Layout :=
  if l.inFlow || l.column?.any (column ≤ ·) then l
  else
    { l with
      columns := column :: l.columns
      tokens := l.tokens.insertIdxIfInBounds tokens start }

/-- Opens a block where the text has got to. -/
def openHere (l : Layout) (start : Token) : Layout :=
  l.openBlock l.cursor.column l.tokens.size start

/-- Gives up the place where a key may have begun. -/
def dropPlace (l : Layout) : Except Error Layout :=
  if l.place.any KeyPlace.required then .error .missingColon else .ok { l with place := none }

/-- Notes that a key may begin here. -/
def notePlace (l : Layout) : Except Error Layout := do
  if l.keyAllowed then
    let l ← l.dropPlace
    let required := !l.inFlow && l.column? = some l.cursor.column
    return { l with place := some ⟨l.tokens.size, l.cursor, required⟩ }
  else return l

/-- A place that is not stale. -/
def freshPlace (here : Cursor) : Option KeyPlace → Except Error (Option KeyPlace)
  | none => .ok none
  | some place =>
    if place.isStale here then (if place.required then .error .missingColon else .ok none)
    else .ok (some place)

def dropStale (l : Layout) : Except Error Layout := do
  return { l with
    place := ← freshPlace l.cursor l.place
    around := ← l.around.mapM (freshPlace l.cursor) }

def openBracket (l : Layout) (token : Token) : Except Error Layout := do
  let l ← l.notePlace
  return { l with around := l.place :: l.around, place := none, keyAllowed := true }.takeNext token 1

def closeBracket (l : Layout) (token : Token) : Except Error Layout := do
  let l ← l.dropPlace
  let l :=
    match l.around with
    | [] => l
    | place :: around => { l with place, around }
  return { l with keyAllowed := false }.takeNext token 1

/-- Takes a comma between brackets. -/
def comma (l : Layout) : Except Error Layout := do
  let l ← l.dropPlace
  return { l with keyAllowed := true }.takeNext .comma 1

/-- Takes the dash in front of an item. -/
def item (l : Layout) : Except Error Layout := do
  if !l.inFlow && !l.keyAllowed then throw .misplacedIndicator
  let l ← (l.openHere .blockSequenceStart).dropPlace
  return { l with keyAllowed := true }.takeNext .item 1

/-- Takes the question mark in front of a key. -/
def explicitKey (l : Layout) : Except Error Layout := do
  if !l.inFlow && !l.keyAllowed then throw .misplacedIndicator
  let l ← (l.openHere .blockMappingStart).dropPlace
  return { l with keyAllowed := !l.inFlow }.takeNext .key 1

/-- Takes the colon in front of a value. It shows that there was a key at the noted place. -/
def value (l : Layout) : Except Error Layout := do
  match l.place with
  | some place =>
    let l := { l with tokens := l.tokens.insertIdxIfInBounds place.tokens .key }
    let l := l.openBlock place.start.column place.tokens .blockMappingStart
    return { l with place := none, keyAllowed := false }.takeNext .value 1
  | none =>
    if !l.inFlow && !l.keyAllowed then throw .misplacedIndicator
    let l := l.openHere .blockMappingStart
    return { l with keyAllowed := !l.inFlow }.takeNext .value 1

/-- Takes what may be a key or stand in front of one. -/
def keyPart (l : Layout) (read : Cursor → Except Error (Token × Cursor)) : Except Error Layout := do
  let l ← l.notePlace
  return { l with keyAllowed := false }.take (← read l.cursor)

/-- Begins or ends a document, or takes a directive. -/
def betweenDocuments (l : Layout) (read : Cursor → Except Error (Token × Cursor)) :
    Except Error Layout := do
  let l ← l.closeAll.dropPlace
  return { l with keyAllowed := false }.take (← read l.cursor)

def blockScalar (l : Layout) (read : Cursor → Except Error (Token × Cursor)) :
    Except Error Layout := do
  let l ← l.dropPlace
  return { l with keyAllowed := true }.take (← read l.cursor)

/-- Ends the text. -/
def finish (l : Layout) : Except Error (List Token) := do
  return (← l.closeAll.dropPlace).tokens.toList

end Layout

end QuickFix.Yaml
