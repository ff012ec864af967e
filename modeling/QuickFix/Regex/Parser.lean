import QuickFix.Regex.Bracket

/-!
Reading patterns. One pass keeps the groups that are open; every step takes at least one character.
A pattern that is not well formed has no tree.
-/

namespace QuickFix.Regex

/-- A part of a pattern that was read: its tree, how deep it is nested, and whether it may be
repeated, which the empty expression and flags may not. -/
structure Piece where
  node : Node
  depth : Nat
  repeatable : Bool

namespace Piece

/-- What stands for nothing. -/
def nothing : Piece := ⟨.empty, 0, false⟩

/-- A single part. -/
def leaf (n : Node) : Piece := ⟨n, 0, true⟩

/-- The greatest depth of some parts. -/
def maxDepth (pieces : List Piece) : Nat := pieces.foldl (fun d p => max d p.depth) 0

/-- Parts one after the other, given last one first. -/
def concat (backwards : List Piece) : Piece :=
  match backwards with
  | [] => nothing
  | [p] => p
  | _ => ⟨.cats (backwards.reverse.map Piece.node), maxDepth backwards + 1, true⟩

/-- Alternatives, given last one first. -/
def alternatives (backwards : List Piece) : Piece :=
  match backwards with
  | [] => nothing
  | [p] => p
  | _ => ⟨.alts (backwards.reverse.map Piece.node), maxDepth backwards + 1, true⟩

end Piece

/-- A group that is open: the flags to return to behind it, its number and name if it captures, and
the parts and alternatives in front of it. -/
structure OpenGroup where
  flags : Flags
  capture : Option (Nat × Option String)
  parts : List Piece
  branches : List Piece

/-- How far a pattern was read: the flags in force, the parts of the current alternative and the
alternatives before it, both last one first, the open groups, and the captures that have begun. -/
structure Reading where
  flags : Flags
  parts : List Piece
  branches : List Piece
  groups : List OpenGroup
  captures : Nat
  names : List String

namespace Reading

/-- Nothing was read yet. -/
def start : Reading := ⟨{}, [], [], [], 0, []⟩

def push (r : Reading) (p : Piece) : Reading := { r with parts := p :: r.parts }

/-- All that was read in the innermost open group. -/
def body (r : Reading) : Piece := Piece.alternatives (Piece.concat r.parts :: r.branches)

def openGroup (r : Reading) (flags : Flags) (capture : Option (Nat × Option String)) : Reading :=
  { r with
    flags, parts := [], branches := [],
    groups := ⟨r.flags, capture, r.parts, r.branches⟩ :: r.groups }

/-- Closes the innermost open group, if there is one. -/
def closeGroup (r : Reading) : Option Reading :=
  match r.groups with
  | [] => none
  | g :: outer =>
    let body := r.body
    let node :=
      match g.capture with
      | some (index, name) => Node.group index name body.node
      | none => body.node
    some { r with
      flags := g.flags, parts := ⟨node, body.depth + 1, true⟩ :: g.parts, branches := g.branches,
      groups := outer }

/-- Repeats the last part, if there is one that may be repeated. -/
def repeatLast (r : Reading) (min : Nat) (max : Option Nat) (greedy : Bool) : Option Reading :=
  match r.parts with
  | p :: before =>
    if p.repeatable then
      let greedy := if r.flags.swapGreed then !greedy else greedy
      some { r with parts := ⟨.repeating p.node min max greedy, p.depth + 1, true⟩ :: before }
    else none
  | [] => none

end Reading

/-- Whether a character may stand in the name of a group. -/
def isNameChar (isFirst : Bool) (c : Char) : Bool :=
  c = '_' || CharSet.alphabetic.contains c ||
    !isFirst && (c = '.' || c = '[' || c = ']' || CharSet.numeral.contains c)

/-- Reads the name of a group up to its closing angle. -/
def readGroupName (isFirst : Bool) : List Char → Option (List Char × List Char)
  | [] => none
  | c :: cs =>
    if c = '>' then if isFirst then none else some ([], cs)
    else if isNameChar isFirst c then do
      let (name, rest) ← readGroupName false cs
      return (c :: name, rest)
    else none

def openNamed (r : Reading) (cs : List Char) : Option (Reading × List Char) := do
  let (chars, rest) ← readGroupName true cs
  let name := String.ofList chars
  if r.names.contains name then none
  let index := r.captures + 1
  let r := { r with captures := index, names := name :: r.names }
  return (r.openGroup r.flags (some (index, some name)), rest)

/-- Reads what follows an opening bracket: a group with or without a name, a group with flags, or
flags for the rest of the group around them. There are no look-arounds. -/
def readGroupStart (r : Reading) (cs : List Char) : Option (Reading × List Char) :=
  match skipBlanks r.flags cs with
  | '?' :: 'P' :: '<' :: rest => openNamed r rest
  | '?' :: '<' :: '=' :: _ => none
  | '?' :: '<' :: '!' :: _ => none
  | '?' :: '<' :: rest => openNamed r rest
  | '?' :: rest => do
    let (flags, count, rest) ← readFlags r.flags [] false false rest
    match rest with
    | ')' :: rest =>
      if count = 0 then none else return ({ r with flags }.push .nothing, rest)
    | ':' :: rest => return (r.openGroup flags none, rest)
    | _ => none
  | rest =>
    let index := r.captures + 1
    let r := { r with captures := index }
    some (r.openGroup r.flags (some (index, none)), rest)

def maxCount : Nat := 0xFFFFFFFF

/-- Reads digits, between which blanks may stand where a pattern is written with them. -/
def readDigits (flags : Flags) : (fuel : Nat) → List Char → List Nat × List Char
  | 0, cs => ([], cs)
  | fuel + 1, cs =>
    match cs with
    | [] => ([], [])
    | c :: rest =>
      if '0' ≤ c ∧ c ≤ '9' then
        let (ds, rest) := readDigits flags fuel (skipBlanks flags rest)
        ((c.toNat - 48) :: ds, rest)
      else ([], c :: rest)

/-- Reads blanks behind a count. -/
def skipBehindCount (flags : Flags) (cs : List Char) : List Char :=
  skipBlanks flags (cs.dropWhile Text.isBlank)

/-- Reads a count, with blanks around it. -/
def readCount (flags : Flags) (cs : List Char) : Option (Nat × List Char) :=
  let (ds, rest) := readDigits flags (cs.length + 1) (cs.dropWhile Text.isBlank)
  let n := ds.foldl (fun n d => n * 10 + d) 0
  if ds.isEmpty || n > maxCount then none else some (n, skipBehindCount flags rest)

/-- Reads the bounds of a repetition up to its closing brace. -/
def readBounds (flags : Flags) (cs : List Char) : Option (Nat × Option Nat × List Char) := do
  let (min, rest) ← readCount flags (skipBlanks flags cs)
  match rest with
  | '\x7d' :: rest => return (min, some min, rest)
  | ',' :: rest =>
    match skipBlanks flags rest with
    | '\x7d' :: rest => return (min, none, rest)
    | rest =>
      let (max, rest) ← readCount flags rest
      match rest with
      | '\x7d' :: rest => if min ≤ max then return (min, some max, rest) else none
      | _ => none
  | _ => none

/-- Reads the mark that makes a repetition lazy. -/
def readLazy : List Char → Bool × List Char
  | '?' :: rest => (false, rest)
  | rest => (true, rest)

/-- The expression for any one character a dot matches. -/
def dotSet (flags : Flags) : CharSet :=
  if flags.dotAll then .all
  else if flags.crlf then .compl (.union (.single '\n') (.single '\r'))
  else .compl (.single '\n')

/-- The expression that a primitive stands for. Outside Unicode a dot would match parts of
characters, so there is none. -/
def nodeOf? (flags : Flags) : Primitive → Option Node
  | .literal c isByte =>
    if !flags.unicode && isByte && c.toNat ≥ 0x80 then none
    else some (.set (foldIf flags (.single c)))
  | .assertion a => some (.assert a)
  | .dot => if flags.unicode then some (.set (dotSet flags)) else none
  | p => (classOf? flags p).map .set

def caretOf (flags : Flags) : Assertion :=
  if !flags.multiLine then .textStart else if flags.crlf then .lineStartCrlf else .lineStart

def dollarOf (flags : Flags) : Assertion :=
  if !flags.multiLine then .textEnd else if flags.crlf then .lineEndCrlf else .lineEnd

/-- Reads one character, escape or assertion as a part. -/
def readPart (flags : Flags) : List Char → Option (Piece × List Char)
  | [] => none
  | c :: cs => do
    let (p, rest) ←
      match c with
      | '\\' => readEscape flags cs
      | '.' => some (.dot, cs)
      | '^' => some (.assertion (caretOf flags), cs)
      | '$' => some (.assertion (dollarOf flags), cs)
      | _ => some (.literal c false, cs)
    let n ← nodeOf? flags p
    return (.leaf n, rest)

/-- Reads the next part of a pattern, which begins with `c`. -/
def readStep (r : Reading) (c : Char) (cs : List Char) : Option (Reading × List Char) :=
  match c with
  | '(' => readGroupStart r cs
  | ')' => r.closeGroup.map fun r => (r, cs)
  | '|' => some ({ r with parts := [], branches := .concat r.parts :: r.branches }, cs)
  | '[' => do
    let (s, depth, rest) ← readClass r.flags cs
    return (r.push ⟨.set s, depth, true⟩, rest)
  | '?' => do
    let (greedy, rest) := readLazy cs
    let r ← r.repeatLast 0 (some 1) greedy
    return (r, rest)
  | '*' => do
    let (greedy, rest) := readLazy cs
    let r ← r.repeatLast 0 none greedy
    return (r, rest)
  | '+' => do
    let (greedy, rest) := readLazy cs
    let r ← r.repeatLast 1 none greedy
    return (r, rest)
  | '\x7b' => do
    let (min, max, rest) ← readBounds r.flags cs
    let (greedy, rest) := readLazy (skipBlanks r.flags rest)
    let r ← r.repeatLast min max greedy
    return (r, rest)
  | _ => do
    let (p, rest) ← readPart r.flags (c :: cs)
    return (r.push p, rest)

/-- Reads a pattern to its end. Every step takes a character, so the length of the pattern is fuel
enough. -/
def readAll : (fuel : Nat) → Reading → List Char → Option Piece
  | 0, _, _ => none
  | fuel + 1, r, cs =>
    match skipBlanks r.flags cs with
    | [] => if r.groups.isEmpty then some r.body else none
    | c :: cs => do
      let (r, rest) ← readStep r c cs
      readAll fuel r rest

/-- How deep a pattern may be nested. -/
def nestLimit : Nat := 250

/-- The tree of a pattern, if it is well formed. -/
def parse (pattern : String) : Option Node := do
  let cs := pattern.toList
  let p ← readAll (cs.length + 1) .start cs
  if p.depth ≤ nestLimit then return p.node else none

end QuickFix.Regex
