import QuickFix.Regex.Basic

/-!
Where matches lie. The program of an expression never jumps behind its own end, so a thread accepts
only once it noted where the whole match starts and where it ends. A match that is looked for from a
place on thus starts there or behind it, and ends in the text.
-/

namespace QuickFix.Regex

namespace Inst

/-- Where an instruction may go on, given where it stands. -/
def targets (pc : Nat) : Inst → List Nat
  | .set _ => [pc + 1]
  | .assert _ => [pc + 1]
  | .save _ => [pc + 1]
  | .jump target => [target]
  | .split first second => [first, second]
  | .accept => []

end Inst

/-- Whether instructions from a place on never accept, and go on no further than to some end. -/
def Stays (stop : Nat) : (pc : Nat) → List Inst → Prop
  | _, [] => True
  | pc, inst :: rest =>
    (inst ≠ .accept ∧ ∀ target ∈ inst.targets pc, target ≤ stop) ∧ Stays stop (pc + 1) rest

namespace Stays

variable {stop pc : Nat} {code : List Inst}

theorem mono {further : Nat} (hstays : Stays stop pc code) (hle : stop ≤ further) :
    Stays further pc code := by
  induction code generalizing pc with
  | nil => trivial
  | cons inst rest ih =>
      obtain ⟨⟨haccept, htargets⟩, hrest⟩ := hstays
      refine ⟨⟨haccept, fun target htarget => ?_⟩, ih hrest⟩
      exact Nat.le_trans (htargets target htarget) hle

theorem append {more : List Inst} (hstays : Stays stop pc code)
    (hmore : Stays stop (pc + code.length) more) : Stays stop pc (code ++ more) := by
  induction code generalizing pc with
  | nil => exact hmore
  | cons inst rest ih =>
      obtain ⟨hinst, hrest⟩ := hstays
      refine ⟨hinst, ih hrest ?_⟩
      rwa [List.length_cons, Nat.add_comm rest.length 1, ← Nat.add_assoc] at hmore

theorem getElem? (hstays : Stays stop pc code) {i : Nat} {inst : Inst}
    (hinst : code[i]? = some inst) :
    inst ≠ .accept ∧ ∀ target ∈ inst.targets (pc + i), target ≤ stop := by
  induction code generalizing pc i with
  | nil => simp at hinst
  | cons first rest ih =>
      cases i with
      | zero =>
          rw [List.getElem?_cons_zero] at hinst
          obtain rfl := Option.some.inj hinst
          exact hstays.1
      | succ i =>
          rw [List.getElem?_cons_succ] at hinst
          have hnext := ih hstays.2 hinst
          rwa [Nat.add_assoc, Nat.add_comm 1 i] at hnext

end Stays

@[simp]
theorem stays_branch (greedy : Bool) (stop pc turn exit : Nat) (rest : List Inst) :
    Stays stop pc (branch greedy turn exit :: rest) ↔
      (turn ≤ stop ∧ exit ≤ stop) ∧ Stays stop (pc + 1) rest := by
  cases greedy with
  | true => simp [branch, Stays, Inst.targets]
  | false => simp [branch, Stays, Inst.targets, and_comm]

namespace Code

variable {code : Code} {size : Nat}

section Length

variable (hlength : ∀ pc, (code pc).length = size)

include hlength

theorem length_times (count pc : Nat) : (code.times count pc).length = count * size := by
  induction count generalizing pc with
  | zero => simp [times]
  | succ count ih => simp [times, ih, hlength, Nat.succ_mul, Nat.add_comm]

theorem length_upTo (greedy : Bool) (exit count pc : Nat) :
    (code.upTo greedy exit count pc).length = count * (size + 1) := by
  induction count generalizing pc with
  | zero => simp [upTo]
  | succ count ih =>
      simp only [upTo, List.length_cons, List.length_append, ih, hlength, Nat.succ_mul]
      omega

theorem length_plus (greedy : Bool) (pc : Nat) : (code.plus greedy pc).length = size + 1 := by
  simp [plus, hlength]

theorem length_star (greedy : Bool) (pc : Nat) : (code.star greedy pc).length = size + 2 := by
  simp [star, hlength]

theorem length_optionalPlus (greedy : Bool) (pc : Nat) :
    (code.optionalPlus greedy pc).length = size + 2 := by
  simp [optionalPlus, hlength]

end Length

section Stays

variable (hlength : ∀ pc, (code pc).length = size) (hstays : ∀ pc, Stays (pc + size) pc (code pc))

include hlength hstays

theorem stays_times (count pc : Nat) :
    Stays (pc + count * size) pc (code.times count pc) := by
  induction count generalizing pc with
  | zero => trivial
  | succ count ih =>
      have hend : pc + size + count * size = pc + (count + 1) * size := by
        rw [Nat.succ_mul]
        omega
      refine ((hstays pc).mono ?_).append ?_
      · omega
      · rw [hlength, ← hend]
        exact ih (pc + size)

/-- Copies that may be left stay in front of an exit that lies behind all of them. -/
theorem stays_upTo (greedy : Bool) (exit count pc : Nat) (hexit : pc + count * (size + 1) ≤ exit) :
    Stays exit pc (code.upTo greedy exit count pc) := by
  induction count generalizing pc with
  | zero => trivial
  | succ count ih =>
      rw [Nat.succ_mul] at hexit
      simp only [upTo, List.cons_append, stays_branch]
      refine ⟨⟨by omega, Nat.le_refl exit⟩, ((hstays (pc + 1)).mono ?_).append ?_⟩
      · omega
      · apply ih
        rw [hlength]
        omega

theorem stays_plus (greedy : Bool) (pc : Nat) :
    Stays (pc + (size + 1)) pc (code.plus greedy pc) := by
  refine ((hstays pc).mono ?_).append ?_
  · omega
  · simp only [stays_branch, hlength]
    exact ⟨⟨by omega, by omega⟩, trivial⟩

theorem stays_star (greedy : Bool) (pc : Nat) :
    Stays (pc + (size + 2)) pc (code.star greedy pc) := by
  simp only [star, List.cons_append, stays_branch, hlength]
  refine ⟨⟨by omega, by omega⟩, ((hstays (pc + 1)).mono ?_).append ?_⟩
  · omega
  · exact ⟨⟨nofun, by simp [Inst.targets]⟩, trivial⟩

theorem stays_optionalPlus (greedy : Bool) (pc : Nat) :
    Stays (pc + (size + 2)) pc (code.optionalPlus greedy pc) := by
  simp only [optionalPlus, List.cons_append, stays_branch, hlength]
  refine ⟨⟨by omega, by omega⟩, ((hstays (pc + 1)).mono ?_).append ?_⟩
  · omega
  · simp only [stays_branch]
    exact ⟨⟨by omega, by omega⟩, trivial⟩

end Stays

end Code

namespace Node

/-- The number of instructions of an expression. -/
def size : Node → Nat
  | empty => 0
  | set _ => 1
  | assert _ => 1
  | group _ _ body => body.size + 2
  | cat a b => a.size + b.size
  | alt a b => a.size + b.size + 2
  | repeated body min (some most) _ => min * body.size + (most - min) * (body.size + 1)
  | repeated body 0 none _ => body.size + 2
  | repeated body (before + 1) none _ => before * body.size + (body.size + 1)

theorem length_code (n : Node) (pc : Nat) : (n.code pc).length = n.size := by
  induction n generalizing pc with
  | empty => rfl
  | set s => rfl
  | assert a => rfl
  | group index name body ih => simp [code, size, ih]
  | cat a b iha ihb => simp [code, size, iha, ihb]
  | alt a b iha ihb =>
      simp only [code, size, List.length_cons, List.length_append, iha, ihb]
      omega
  | repeated body min max greedy ih =>
      cases max with
      | some most => simp [code, size, Code.length_times ih, Code.length_upTo ih]
      | none =>
          cases min with
          | zero =>
              simp only [code, size]
              split
              · exact Code.length_optionalPlus ih greedy pc
              · exact Code.length_star ih greedy pc
          | succ before => simp [code, size, Code.length_times ih, Code.length_plus ih]

/-- The instructions of an expression go on no further than right behind the last of them. -/
theorem stays_code (n : Node) (pc : Nat) : Stays (pc + n.size) pc (n.code pc) := by
  induction n generalizing pc with
  | empty => trivial
  | set s => exact ⟨⟨nofun, by simp [Inst.targets, size]⟩, trivial⟩
  | assert a => exact ⟨⟨nofun, by simp [Inst.targets, size]⟩, trivial⟩
  | group index name body ih =>
      refine ⟨⟨nofun, by simp [Inst.targets, size]⟩, ((ih (pc + 1)).mono ?_).append ?_⟩
      · simp only [size]
        omega
      · refine ⟨⟨nofun, ?_⟩, trivial⟩
        simp only [Inst.targets, List.mem_singleton, forall_eq, length_code, size]
        omega
  | cat a b iha ihb =>
      refine ((iha pc).mono ?_).append ((ihb _).mono ?_)
      · simp only [size]
        omega
      · simp only [length_code, size]
        omega
  | alt a b iha ihb =>
      simp only [code, length_code, size]
      refine ⟨⟨nofun, ?_⟩, ((iha (pc + 1)).mono ?_).append ?_⟩
      · simp only [Inst.targets, List.mem_cons, List.not_mem_nil, or_false, forall_eq_or_imp,
          forall_eq]
        omega
      · omega
      · refine ⟨⟨nofun, ?_⟩, ?_⟩
        · simp only [Inst.targets, List.mem_singleton, forall_eq]
          omega
        · rw [length_code, show pc + 1 + a.size + 1 = pc + a.size + 2 by omega]
          exact (ihb _).mono (by omega)
  | repeated body min max greedy ih =>
      have hlength := body.length_code
      cases max with
      | some most =>
          simp only [code, size]
          refine ((Code.stays_times hlength ih min pc).mono ?_).append
            ((Code.stays_upTo hlength ih greedy _ (most - min) _ ?_).mono ?_)
          · omega
          · simp only [hlength, Nat.le_refl]
          · rw [hlength, Code.length_times hlength]
            omega
      | none =>
          cases min with
          | zero =>
              simp only [code, size]
              split
              · exact Code.stays_optionalPlus hlength ih greedy pc
              · exact Code.stays_star hlength ih greedy pc
          | succ before =>
              simp only [code, size]
              refine ((Code.stays_times hlength ih before pc).mono ?_).append
                ((Code.stays_plus hlength ih greedy _).mono ?_)
              · omega
              · rw [Code.length_times hlength]
                omega

end Node

/-- Whether a program first notes where the whole match starts, and accepts only right behind noting
where it ends. -/
structure Sealed (program : Array Inst) : Prop where
  opens : program[0]? = some (.save 0)
  closes : ∀ (pc : Nat) (inst : Inst), program[pc]? = some inst → ∀ target ∈ inst.targets pc,
    program[target]? = some .accept → inst = .save 1

/-- A program is sealed if no instruction in front of its last two goes on behind the first of them.
-/
theorem sealed_of_stays {body : List Inst} (hstays : Stays (body.length + 1) 0 (.save 0 :: body)) :
    Sealed (Inst.save 0 :: body ++ [Inst.save 1, Inst.accept]).toArray := by
  generalize hfront : Inst.save 0 :: body = front at hstays
  have hlength : front.length = body.length + 1 := by rw [← hfront, List.length_cons]
  have haccept : ∀ i, (front ++ [.save 1, .accept])[i]? = some .accept →
      i = front.length + 1 := by
    intro i hi
    rw [List.getElem?_append] at hi
    split at hi
    · exact absurd rfl (hstays.getElem? hi).1
    · match hk : i - front.length with
      | 0 => simp [hk] at hi
      | 1 => omega
      | k + 2 => simp [hk] at hi
  constructor
  · rw [List.getElem?_toArray, ← hfront]
    rfl
  · intro pc inst hinst target htarget hlast
    rw [List.getElem?_toArray] at hinst hlast
    obtain rfl := haccept target hlast
    rw [List.getElem?_append] at hinst
    split at hinst
    · have hle := (hstays.getElem? hinst).2 _ (by rwa [Nat.zero_add])
      omega
    · match hk : pc - front.length with
      | 0 => simpa [hk, eq_comm] using hinst
      | 1 =>
          have hinst : Inst.accept = inst := by simpa [hk] using hinst
          simp [← hinst, Inst.targets] at htarget
      | k + 2 => simp [hk] at hinst

theorem Node.sealed_program (n : Node) : Sealed n.program := by
  apply sealed_of_stays
  rw [n.length_code]
  refine ⟨⟨nofun, by simp [Inst.targets]⟩, ?_⟩
  have hstays := n.stays_code 1
  rwa [Nat.add_comm] at hstays

/-- What holds of the threads of a search that began at a place: what they noted lies between that
place and theirs, and they noted a start, and an end before they accept. -/
structure Thread.Sound (program : Array Inst) (size start : Nat) (t : Thread) : Prop where
  start_le : start ≤ t.place
  le_size : t.place ≤ size
  noted : ∀ place, some place ∈ t.slots → start ≤ place ∧ place ≤ t.place
  slots : 2 ≤ t.slots.length
  opened : t.pc = 0 ∨ ∃ place, t.slots[0]? = some (some place)
  closed : program[t.pc]? = some .accept → t.slots[1]? = some (some t.place)

namespace Thread.Sound

variable {program : Array Inst} {size start : Nat} {t : Thread}

/-- A thread that goes on without noting anything. -/
theorem keeps (hsealed : Sealed program) (hsound : t.Sound program size start) {inst : Inst}
    (hinst : program[t.pc]? = some inst) (hsave : ∀ slot, inst ≠ .save slot) {pc place : Nat}
    (hpc : pc ∈ inst.targets t.pc) (hplace : t.place ≤ place) (hsize : place ≤ size) :
    Thread.Sound program size start ⟨pc, place, t.slots⟩ where
  start_le := Nat.le_trans hsound.start_le hplace
  le_size := hsize
  noted noted hnoted :=
    ⟨(hsound.noted noted hnoted).1, Nat.le_trans (hsound.noted noted hnoted).2 hplace⟩
  slots := hsound.slots
  opened := by
    rcases hsound.opened with hzero | hopened
    · rw [hzero, hsealed.opens] at hinst
      exact absurd (Option.some.inj hinst).symm (hsave 0)
    · exact .inr hopened
  closed haccept := absurd (hsealed.closes _ _ hinst pc hpc haccept) (hsave 1)

/-- A thread that notes its place. -/
theorem notes (hsealed : Sealed program) (hsound : t.Sound program size start) {slot : Nat}
    (hinst : program[t.pc]? = some (.save slot)) :
    Thread.Sound program size start ⟨t.pc + 1, t.place, t.slots.set slot (some t.place)⟩ where
  start_le := hsound.start_le
  le_size := hsound.le_size
  noted place hplace := by
    rcases List.mem_or_eq_of_mem_set hplace with hmem | heq
    · exact hsound.noted place hmem
    · obtain rfl := Option.some.inj heq
      exact ⟨hsound.start_le, Nat.le_refl _⟩
  slots := by
    rw [List.length_set]
    exact hsound.slots
  opened := by
    have hslots := hsound.slots
    right
    rw [List.getElem?_set]
    split
    · exact ⟨t.place, if_pos (by omega)⟩
    · rename_i hslot
      rcases hsound.opened with hzero | hopened
      · rw [hzero, hsealed.opens] at hinst
        simp only [Option.some.injEq, Inst.save.injEq] at hinst
        exact absurd hinst.symm hslot
      · exact hopened
  closed haccept := by
    have hslots := hsound.slots
    have hlast := hsealed.closes _ _ hinst (t.pc + 1) (List.mem_singleton_self _) haccept
    obtain rfl := Inst.save.inj hlast
    exact List.getElem?_set_self (by omega)

/-- One step of a thread. -/
theorem next (hsealed : Sealed program) {text : Array Char} (hsound : t.Sound program text.size start)
    {inst : Inst} (hinst : program[t.pc]? = some inst) :
    ∀ on ∈ t.next text inst, on.Sound program text.size start := by
  intro on hon
  cases inst with
  | set s =>
      simp only [Thread.next] at hon
      split at hon
      · rename_i c hc
        have hplace : t.place < text.size := (Array.getElem?_eq_some_iff.mp hc).1
        obtain ⟨_, hon⟩ := List.mem_ite_nil_right.mp hon
        obtain rfl := List.mem_singleton.mp hon
        exact hsound.keeps hsealed hinst nofun (List.mem_singleton_self _) (Nat.le_succ _) hplace
      · simp at hon
  | assert a =>
      obtain ⟨_, hon⟩ := List.mem_ite_nil_right.mp hon
      obtain rfl := List.mem_singleton.mp hon
      exact hsound.keeps hsealed hinst nofun (List.mem_singleton_self _) (Nat.le_refl _)
        hsound.le_size
  | save slot =>
      obtain rfl := List.mem_singleton.mp hon
      exact hsound.notes hsealed hinst
  | jump target =>
      obtain rfl := List.mem_singleton.mp hon
      exact hsound.keeps hsealed hinst nofun (List.mem_singleton_self _) (Nat.le_refl _)
        hsound.le_size
  | split first second =>
      simp only [Thread.next, List.mem_cons, List.not_mem_nil, or_false] at hon
      rcases hon with rfl | rfl
      · exact hsound.keeps hsealed hinst nofun List.mem_cons_self (Nat.le_refl _) hsound.le_size
      · exact hsound.keeps hsealed hinst nofun (List.mem_cons_of_mem _ List.mem_cons_self)
          (Nat.le_refl _) hsound.le_size
  | accept => simp [Thread.next] at hon

end Thread.Sound

/-- A run of sound threads ends with what a sound thread noted that accepts. -/
theorem exists_sound_of_run {program : Array Inst} (hsealed : Sealed program) {text : Array Char}
    {start : Nat} {marks : Array Bool} {threads : List Thread} {slots : Slots}
    (hsound : ∀ t ∈ threads, t.Sound program text.size start)
    (hrun : run program text marks threads = some slots) :
    ∃ t : Thread, t.Sound program text.size start ∧ program[t.pc]? = some .accept ∧
      t.slots = slots := by
  fun_induction run program text marks threads with
  | case1 marks => cases hrun
  | case2 marks t rest hmark hfresh haccept =>
      exact ⟨t, hsound t List.mem_cons_self, haccept, Option.some.inj hrun⟩
  | case3 marks t rest hmark hfresh inst haccept hinst ih =>
      apply ih _ hrun
      intro on hon
      rcases List.mem_append.mp hon with hnext | hrest
      · exact (hsound t List.mem_cons_self).next hsealed hinst on hnext
      · exact hsound on (List.mem_cons_of_mem t hrest)
  | case4 marks t rest hmark hfresh hnone ih =>
      exact ih (fun on hon => hsound on (List.mem_cons_of_mem t hon)) hrun
  | case5 marks t rest hmark htried ih =>
      exact ih (fun on hon => hsound on (List.mem_cons_of_mem t hon)) hrun
  | case6 marks t rest hmark ih =>
      exact ih (fun on hon => hsound on (List.mem_cons_of_mem t hon)) hrun

theorem sound_of_mem_starts {program : Array Inst} (hsealed : Sealed program) {slotCount : Nat}
    (hcount : 2 ≤ slotCount) {text : Array Char} {start : Nat} :
    ∀ t ∈ starts slotCount text start, t.Sound program text.size start := by
  intro t ht
  obtain ⟨place, hplace, rfl⟩ := List.mem_map.mp ht
  rw [List.mem_range'_1] at hplace
  refine ⟨hplace.1, ?_, ?_, ?_, .inl rfl, ?_⟩
  · change place ≤ text.size
    omega
  · intro noted hnoted
    exact nomatch (List.eq_of_mem_replicate hnoted)
  · rwa [List.length_replicate]
  · intro haccept
    rw [hsealed.opens] at haccept
    cases haccept

/-- Whether an expression was read from a pattern. -/
def Compiled (re : Regex) : Prop := ∃ pattern, compile? pattern = some re

theorem Compiled.sealed {re : Regex} (hcompiled : re.Compiled) : Sealed re.program := by
  obtain ⟨pattern, hre⟩ := hcompiled
  obtain ⟨n, _, hn⟩ := Option.bind_eq_some_iff.mp hre
  split at hn
  · obtain rfl := Option.some.inj hn
    exact n.sealed_program
  · cases hn

theorem Compiled.groupCount_pos {re : Regex} (hcompiled : re.Compiled) : 0 < re.groupCount := by
  obtain ⟨pattern, hre⟩ := hcompiled
  obtain ⟨n, _, hn⟩ := Option.bind_eq_some_iff.mp hre
  split at hn
  · obtain rfl := Option.some.inj hn
    simp [groupCount, groupNames]
  · cases hn

/-- The first match from a place on starts there or behind it, and ends in the text. -/
theorem Compiled.whole_of_matchFrom? {re : Regex} (hcompiled : re.Compiled) {text : List Char}
    {start : Nat} {spans : Spans} (hmatch : re.matchFrom? text start = some spans) :
    start ≤ (Spans.whole spans).start ∧ (Spans.whole spans).start ≤ (Spans.whole spans).stop ∧
      (Spans.whole spans).stop ≤ text.length := by
  obtain ⟨slots, hrun, rfl⟩ := Option.map_eq_some_iff.mp hmatch
  have hpos := hcompiled.groupCount_pos
  obtain ⟨t, hsound, haccept, rfl⟩ := exists_sound_of_run hcompiled.sealed
    (sound_of_mem_starts hcompiled.sealed (by omega)) hrun
  have hclosed := hsound.closed haccept
  rcases hsound.opened with hzero | ⟨place, hopened⟩
  · rw [hzero, hcompiled.sealed.opens] at haccept
    cases haccept
  · obtain ⟨pc, last, slots⟩ := t
    match slots with
    | [] => simp at hopened
    | [_] => simp at hclosed
    | first :: second :: rest =>
        simp only [List.getElem?_cons_zero, Option.some.injEq] at hopened
        simp only [List.getElem?_cons_succ, List.getElem?_cons_zero, Option.some.injEq] at hclosed
        subst hopened hclosed
        have hnoted := hsound.noted place List.mem_cons_self
        simp only [spansOf, Spans.whole]
        exact ⟨hnoted.1, hnoted.2, by simpa using hsound.le_size⟩

section Letter

/-- The expression of a character that stands for itself. -/
def letter (c : Char) : Regex :=
  ⟨c.toString, #[.save 0, .set (.bands [⟨c.toNat, c.toNat, 1⟩]), .save 1, .accept], [none]⟩

variable {c : Char} (hc : isMeta c = false)
include hc

theorem readPart_of_not_isMeta (cs : List Char) :
    readPart {} (c :: cs) = some (.leaf (.set (.single c)), cs) := by
  rw [readPart.eq_def]
  dsimp only
  split <;> first | exact absurd hc (by decide) | rfl

theorem readStep_of_not_isMeta (cs : List Char) :
    readStep .start c cs = some (Reading.start.push (.leaf (.set (.single c))), cs) := by
  unfold readStep
  split <;> try exact absurd hc (by decide)
  change (readPart {} (c :: cs)).bind _ = _
  rw [readPart_of_not_isMeta hc]
  rfl

theorem parse_singleton : parse (String.singleton c) = some (.set (.single c)) := by
  have hread : readAll 2 .start [c] = some (.leaf (.set (.single c))) := by
    rw [readAll, skipBlanks]
    change (readStep .start c []).bind _ = _
    rw [readStep_of_not_isMeta hc]
    change readAll 1 (Reading.start.push (.leaf (.set (.single c)))) [] = _
    rw [readAll, skipBlanks]
    rfl
  rw [parse, String.toList_singleton]
  change (readAll 2 .start [c]).bind _ = _
  rw [hread]
  rfl

/-- A character without another meaning is the pattern of itself. -/
theorem compiled_letter : (letter c).Compiled := by
  have hweight : (Node.set (.single c)).weight ≤ programLimit := by
    have hsize := c.utf8Size_le_four
    change (if c.toNat = c.toNat then 32 * (Char.ofNat c.toNat).utf8Size else 76) ≤ 10 * 0x100000
    rw [if_pos rfl, Char.ofNat_toNat]
    omega
  refine ⟨String.singleton c, ?_⟩
  rw [compile?, parse_singleton hc]
  exact if_pos hweight

end Letter

end QuickFix.Regex
