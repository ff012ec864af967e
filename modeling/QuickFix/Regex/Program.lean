import QuickFix.Regex.Node

/-!
Programs for regular expressions. A program is a list of instructions; each takes a character, tests
the place between two characters, notes it, or says where to go on. Of two ways to go on, the first
is preferred, so the preferences of an expression are those of its program.
-/

namespace QuickFix.Regex

/-- One instruction. Those without a target go on at the next one. -/
inductive Inst where
  /-- Takes a character of the set. -/
  | set (s : CharSet)
  /-- Goes on if the assertion holds. -/
  | assert (a : Assertion)
  /-- Notes the place in a slot. -/
  | save (slot : Nat)
  | jump (target : Nat)
  /-- Goes on at the first target, or failing that at the second. -/
  | split (first second : Nat)
  | accept
  deriving DecidableEq, Repr

/-- Prefers another turn if greedy, and the way out if not. -/
def branch (greedy : Bool) (turn exit : Nat) : Inst :=
  if greedy then .split turn exit else .split exit turn

/-- The instructions of an expression, given where the first of them stands. -/
abbrev Code := Nat → List Inst

namespace Code

/-- A number of copies one after the other. -/
def times (code : Code) : (count : Nat) → Code
  | 0, _ => []
  | count + 1, pc =>
    let first := code pc
    first ++ times code count (pc + first.length)

/-- A number of copies, each of which may be the place to leave for `exit`. -/
def upTo (code : Code) (greedy : Bool) (exit : Nat) : (count : Nat) → Code
  | 0, _ => []
  | count + 1, pc =>
    let first := code (pc + 1)
    branch greedy (pc + 1) exit :: first ++ upTo code greedy exit count (pc + 1 + first.length)

def plus (code : Code) (greedy : Bool) : Code := fun pc =>
  let body := code pc
  body ++ [branch greedy pc (pc + body.length + 1)]

/-- Any number of copies of what takes at least one character. -/
def star (code : Code) (greedy : Bool) : Code := fun pc =>
  let body := code (pc + 1)
  branch greedy (pc + 1) (pc + body.length + 2) :: body ++ [.jump pc]

/-- No copy or at least one. For what may take no character this differs from `star`: the first turn
may be empty, and the place behind a turn is not the place in front of it. -/
def optionalPlus (code : Code) (greedy : Bool) : Code := fun pc =>
  let body := code (pc + 1)
  let exit := pc + body.length + 2
  branch greedy (pc + 1) exit :: body ++ [branch greedy (pc + 1) exit]

end Code

def Node.code : Node → Code
  | empty, _ => []
  | set s, _ => [.set s]
  | assert a, _ => [.assert a]
  | group index _ body, pc => .save (2 * index) :: body.code (pc + 1) ++ [.save (2 * index + 1)]
  | cat a b, pc =>
    let first := a.code pc
    first ++ b.code (pc + first.length)
  | alt a b, pc =>
    let first := a.code (pc + 1)
    let second := b.code (pc + first.length + 2)
    .split (pc + 1) (pc + first.length + 2) ::
      first ++ .jump (pc + first.length + 2 + second.length) :: second
  | repeated body min max greedy, pc =>
    match max with
    | some most =>
      let needed := Code.times body.code min pc
      let exit := pc + needed.length + (most - min) * ((body.code 0).length + 1)
      needed ++ Code.upTo body.code greedy exit (most - min) (pc + needed.length)
    | none =>
      match min with
      | 0 =>
        if body.mayBeEmpty then Code.optionalPlus body.code greedy pc
        else Code.star body.code greedy pc
      | before + 1 =>
        let needed := Code.times body.code before pc
        needed ++ Code.plus body.code greedy (pc + needed.length)

/-- The program of an expression: the whole match is noted like a group. -/
def Node.program (n : Node) : Array Inst :=
  let body := n.code 1
  (Inst.save 0 :: body ++ [Inst.save 1, Inst.accept]).toArray

/-- The number of bytes that a set is reckoned to take in a program, approximately: the size of a
compiled automaton depends on how its compiler shares and orders states, which is not followed here.
-/
def CharSet.weight : CharSet → Nat
  | bands table => 32 + 44 * table.length
  | union a b => a.weight + b.weight
  | inter a b => a.weight + b.weight
  | diff a b => a.weight + b.weight
  | compl a => a.weight + 300
  | folded a => a.weight + 16
  | foldedAscii a => a.weight + 16

/-- The number of bytes that an expression is reckoned to take in a program, as approximate as those
of its sets. -/
def Node.weight : Node → Nat
  | empty => 32
  | set s => match s with
    | .bands [b] => if b.first = b.last then 32 * (Char.ofNat b.first).utf8Size else 76
    | s => s.weight
  | assert _ => 32
  | group _ _ body => body.weight + 64
  | cat a b => a.weight + b.weight
  | alt a b => a.weight + b.weight + 64
  | repeated body min max _ => (body.weight + 36) * Nat.max 1 (max.getD (min + 1)) + 64

/-- The number of bytes that a program may take. What is held against it is approximate, so only
patterns far from it are surely judged alike. -/
def programLimit : Nat := 10 * 0x100000

end QuickFix.Regex
