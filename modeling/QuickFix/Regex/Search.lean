import QuickFix.Regex.Program

/-!
Running a program. A search keeps a list of threads in order of preference and always goes on with
the first; no instruction is tried twice at one place, since a second try could not end otherwise.
So a search takes at most as many steps as there are pairs of an instruction and a place.
-/

namespace QuickFix.Regex

/-- The places noted so far, by slot. -/
abbrev Slots := List (Option Nat)

/-- One way to go on: an instruction, a place in the text, and the places noted on the way. -/
structure Thread where
  pc : Nat
  place : Nat
  slots : Slots
  deriving DecidableEq, Repr

/-- The ways to go on from a thread whose instruction is known, the preferred one first. -/
def Thread.next (text : Array Char) (t : Thread) : Inst → List Thread
  | .set s =>
    match text[t.place]? with
    | some c => if s.contains c then [⟨t.pc + 1, t.place + 1, t.slots⟩] else []
    | none => []
  | .assert a =>
    let before := if t.place = 0 then none else text[t.place - 1]?
    if a.holds before text[t.place]? then [⟨t.pc + 1, t.place, t.slots⟩] else []
  | .save slot => [⟨t.pc + 1, t.place, t.slots.set slot (some t.place)⟩]
  | .jump target => [⟨target, t.place, t.slots⟩]
  | .split first second => [⟨first, t.place, t.slots⟩, ⟨second, t.place, t.slots⟩]
  | .accept => []

/-- Where the pair of an instruction and a place of a thread is marked. -/
def Thread.mark (text : Array Char) (t : Thread) : Nat := t.pc * (text.size + 1) + t.place

theorem count_set_lt {marks : Array Bool} {i : Nat} (h : i < marks.size) (hf : marks[i] = false) :
    (marks.set i true).count false < marks.count false := by
  have hpos : 0 < marks.count false :=
    Array.count_pos_iff.2 (hf ▸ Array.getElem_mem h)
  have hi : (marks[i] == false) = true := by rw [hf]; rfl
  have ht : ¬ (true == false) = true := by decide
  rw [Array.count_set h, if_pos hi, if_neg ht]
  omega

/-- Runs threads until one accepts. A mark stands where an instruction was tried at a place. -/
def run (program : Array Inst) (text : Array Char) (marks : Array Bool) :
    List Thread → Option Slots
  | [] => none
  | t :: rest =>
    if h : t.mark text < marks.size then
      if hm : marks[t.mark text] = false then
        match program[t.pc]? with
        | some .accept => some t.slots
        | some inst => run program text (marks.set (t.mark text) true) (t.next text inst ++ rest)
        | none => run program text marks rest
      else run program text marks rest
    else run program text marks rest
termination_by threads => (marks.count false, threads.length)
decreasing_by
  · exact Prod.Lex.left _ _ (count_set_lt h hm)
  all_goals exact Prod.Lex.right _ (by simp)

/-- A thread for each place from `start` to the end of the text. Earlier places are preferred. -/
def starts (slotCount : Nat) (text : Array Char) (start : Nat) : List Thread :=
  (List.range' start (text.size + 1 - start)).map fun place =>
    ⟨0, place, List.replicate slotCount none⟩

/-- The first match that starts at `start` or behind it; what stands in front is seen by assertions.
-/
def search (program : Array Inst) (slotCount : Nat) (text : Array Char) (start : Nat) :
    Option Slots :=
  run program text (Array.replicate (program.size * (text.size + 1)) false)
    (starts slotCount text start)

end QuickFix.Regex
