import QuickFix.Regex.Escape

/-!
Classes in brackets: characters, ranges, named classes and nested brackets, joined to one set, with
intersection, difference and symmetric difference between them. The operators have one precedence
and associate to the left.
-/

namespace QuickFix.Regex

/-- The members of a class that were read so far: how many they are, the set they make and how deep
they are nested. -/
structure Members where
  count : Nat
  set : CharSet
  depth : Nat

namespace Members

/-- No members yet. -/
def none : Members := ⟨0, .empty, 0⟩

def push (m : Members) (s : CharSet) (depth : Nat) : Members :=
  ⟨m.count + 1, if m.count = 0 then s else .union m.set s, max m.depth depth⟩

/-- How deep all members together are nested: two or more make a level of their own. -/
def level (m : Members) : Nat := if m.count ≤ 1 then m.depth else m.depth + 1

end Members

/-- The operators between the parts of a class. -/
inductive SetOp where
  | inter
  | diff
  | symmDiff
  deriving DecidableEq, Repr

/-- The set that an operator makes of two. -/
def SetOp.apply : SetOp → CharSet → CharSet → CharSet
  | inter, a, b => .inter a b
  | diff, a, b => .diff a b
  | symmDiff, a, b => .symmDiff a b

/-- What is open while a class is read. -/
inductive Pending where
  /-- A bracket, with the members in front of it. -/
  | bracket (before : Members) (negated : Bool)
  /-- An operator with its left side and how deep that is nested. -/
  | operator (op : SetOp) (left : CharSet) (depth : Nat)

/-- Closes a set under case variants if case is ignored. -/
def foldIf (flags : Flags) (s : CharSet) : CharSet :=
  if flags.caseless then if flags.unicode then .folded s else .foldedAscii s else s

/-- Whether a set holds characters beyond ASCII, in a class that may hold bytes only: such a class
treats all of them alike. -/
def beyondAscii (s : CharSet) : Bool := s.holds 0x80

/-- Finishes a set: case, negation, and the test that bytes are ASCII. -/
def finishSet (flags : Flags) (negated : Bool) (s : CharSet) : Option CharSet :=
  let done := (foldIf flags s).complIf negated
  if !flags.unicode && beyondAscii done then none else some done

/-- The set that a primitive stands for as a whole expression or as a member of a class. -/
def classOf? (flags : Flags) : Primitive → Option CharSet
  | .perl s ascii negated =>
    if flags.unicode then some (s.complIf negated) else if negated then none else some ascii
  | .property s negated =>
    if flags.unicode then some ((foldIf flags s).complIf negated) else none
  | _ => none

/-- The character that a primitive stands for in a class. -/
def memberChar? (flags : Flags) : Primitive → Option Char
  | .literal c _ => if flags.unicode || c.toNat < 0x80 then some c else none
  | _ => none

/-- Reads a character or an escape in a class. -/
def readMember (flags : Flags) : List Char → Option (Primitive × List Char)
  | [] => none
  | '\\' :: cs => readEscape flags cs
  | c :: cs => some (.literal c false, cs)

/-- The set of a member of a class. -/
def memberSet? (flags : Flags) (p : Primitive) : Option CharSet :=
  match p with
  | .literal _ _ => (memberChar? flags p).map .single
  | _ => classOf? flags p

/-- Reads a member or a range. A hyphen makes a range unless a bracket or another hyphen follows. -/
def readRange (flags : Flags) (cs : List Char) : Option (CharSet × List Char) := do
  let (first, rest) ← readMember flags cs
  let rest := skipBlanks flags rest
  match rest with
  | [] => none
  | '-' :: more =>
    match skipBlanks flags more with
    | [] => none
    | next :: tail =>
      if next = ']' ∨ next = '-' then
        let s ← memberSet? flags first
        return (s, rest)
      else
        let (last, rest) ← readMember flags (next :: tail)
        let a ← memberChar? flags first
        let b ← memberChar? flags last
        if a ≤ b then return (.range a b, rest) else none
  | _ =>
    let s ← memberSet? flags first
    return (s, rest)

/-- Reads a class between `[:` and `:]` behind its first bracket, if one is there, and whether it is
negated. -/
def readAsciiClass : List Char → Option (CharSet × Bool × List Char)
  | ':' :: cs => do
    let (negated, cs) :=
      match cs with
      | '^' :: rest => (true, rest)
      | _ => (false, cs)
    let name := cs.takeWhile (· ≠ ':')
    match cs.drop name.length with
    | ':' :: ']' :: rest =>
      let s ← asciiClass? (String.ofList name)
      return (s, negated, rest)
    | _ => none
  | _ => none

/-- Reads hyphens, which stand for themselves at the start of a class. -/
def readHyphens (flags : Flags) : (fuel : Nat) → Members → List Char → Members × List Char
  | 0, m, cs => (m, cs)
  | fuel + 1, m, cs =>
    match cs with
    | '-' :: rest => readHyphens flags fuel (m.push (.single '-') 0) (skipBlanks flags rest)
    | _ => (m, cs)

/-- Reads the start of a class behind its bracket: a caret negates, hyphens stand for themselves,
and so does a closing bracket that comes first. -/
def readOpening (flags : Flags) (cs : List Char) : Option (Bool × Members × List Char) :=
  let cs := skipBlanks flags cs
  let (negated, cs) :=
    match cs with
    | '^' :: rest => (true, skipBlanks flags rest)
    | _ => (false, cs)
  let (m, cs) := readHyphens flags cs.length .none cs
  match cs with
  | [] => Option.none
  | ']' :: rest =>
    if m.count = 0 then
      match skipBlanks flags rest with
      | [] => Option.none
      | rest => some (negated, m.push (.single ']') 0, rest)
    else some (negated, m, cs)
  | _ => some (negated, m, cs)

/-- Joins the members behind an operator with its left side, if an operator is pending. -/
def applyPending (flags : Flags) (m : Members) (pending : List Pending) :
    CharSet × Nat × List Pending :=
  match pending with
  | .operator op left depth :: rest =>
    (op.apply (foldIf flags left) (foldIf flags m.set), max depth m.level + 1, rest)
  | _ => (m.set, m.level, pending)

/-- Reads a class from behind its start to its closing bracket, and answers with its set and how
deep it is nested. Each step takes at least one character. -/
def readClassRest (flags : Flags) : (fuel : Nat) → Members → List Pending → List Char →
    Option (CharSet × Nat × List Char)
  | 0, _, _, _ => none
  | fuel + 1, m, pending, cs =>
    let pushOp (op : SetOp) (rest : List Char) :=
      let (left, depth, pending) := applyPending flags m pending
      readClassRest flags fuel .none (.operator op left depth :: pending) rest
    match skipBlanks flags cs with
    | [] => none
    | '[' :: rest =>
      match readAsciiClass rest with
      | some (s, negated, rest) => do
        let s ← finishSet flags negated s
        readClassRest flags fuel (m.push s 0) pending rest
      | none => do
        let (negated, inner, rest) ← readOpening flags rest
        readClassRest flags fuel inner (.bracket m negated :: pending) rest
    | ']' :: rest =>
      match applyPending flags m pending with
      | (s, depth, .bracket before negated :: outer) => do
        let s ← finishSet flags negated s
        match outer with
        | [] => return (s, depth + 1, rest)
        | _ => readClassRest flags fuel (before.push s (depth + 1)) outer rest
      | _ => none
    | '&' :: '&' :: rest => pushOp .inter rest
    | '-' :: '-' :: rest => pushOp .diff rest
    | '~' :: '~' :: rest => pushOp .symmDiff rest
    | rest => do
      let (s, rest) ← readRange flags rest
      readClassRest flags fuel (m.push s 0) pending rest

def readClass (flags : Flags) (cs : List Char) : Option (CharSet × Nat × List Char) := do
  let (negated, m, rest) ← readOpening flags cs
  readClassRest flags (rest.length + 1) m [.bracket .none negated] rest

end QuickFix.Regex
