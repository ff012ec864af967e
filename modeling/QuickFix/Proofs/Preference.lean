import Mathlib.Data.Set.Insert
import QuickFix.Proofs.Match

/-!
Which match a search prefers. The marks of a search only keep it from going in circles: what it
finds can be told without them. Of some threads it goes on with the first that leads to acceptance without
coming back to where the chosen way has been, and so on at each step. Threads that lead nowhere can
be left out, whatever marks they would have set.
-/

namespace QuickFix.Regex

/-- An instruction and a place, which is all that decides where a thread may go. -/
abbrev Spot := Nat × Nat

namespace Thread

/-- Where a thread stands. -/
def spot (t : Thread) : Spot := (t.pc, t.place)

/-- A thread at a spot that has noted nothing. -/
def bare (s : Spot) : Thread := ⟨s.1, s.2, []⟩

/-- Where a thread goes on does not hang on what it noted. -/
theorem map_spot_next (text : Array Char) (t : Thread) (inst : Inst) :
    (t.next text inst).map spot = ((bare t.spot).next text inst).map spot := by
  cases inst with
  | set s =>
      simp only [next, bare, spot]
      cases text[t.place]? with
      | none => rfl
      | some c =>
          simp only [apply_ite (List.map spot)]
          rfl
  | assert a =>
      simp only [next, apply_ite (List.map spot)]
      rfl
  | save slot => rfl
  | jump target => rfl
  | split first second => rfl
  | accept => rfl

/-- What a step does to a thread. -/
structure Continues (size : Nat) (inst : Inst) (t on : Thread) : Prop where
  target : on.pc ∈ inst.targets t.pc
  le_place : t.place ≤ on.place
  le_size : t.place ≤ size → on.place ≤ size
  slots : on.slots = t.slots ∨
    ∃ slot, inst = .save slot ∧ on.slots = t.slots.set slot (some t.place)

theorem continues_of_mem_next {text : Array Char} {t on : Thread} {inst : Inst}
    (hon : on ∈ t.next text inst) : Continues text.size inst t on := by
  have hstays : ∀ {pc : Nat}, pc ∈ inst.targets t.pc →
      Continues text.size inst t ⟨pc, t.place, t.slots⟩ :=
    fun hpc => ⟨hpc, Nat.le_refl _, id, .inl rfl⟩
  cases inst with
  | set s =>
      simp only [next] at hon
      split at hon
      · rename_i c hc
        obtain ⟨_, hon⟩ := List.mem_ite_nil_right.mp hon
        obtain rfl := List.mem_singleton.mp hon
        exact ⟨List.mem_singleton_self _, Nat.le_succ _,
          fun _ => (Array.getElem?_eq_some_iff.mp hc).1, .inl rfl⟩
      · cases hon
  | assert a =>
      obtain ⟨_, hon⟩ := List.mem_ite_nil_right.mp hon
      obtain rfl := List.mem_singleton.mp hon
      exact hstays (List.mem_singleton_self _)
  | save slot =>
      obtain rfl := List.mem_singleton.mp hon
      exact ⟨List.mem_singleton_self _, Nat.le_refl _, id, .inr ⟨slot, rfl, rfl⟩⟩
  | jump target =>
      obtain rfl := List.mem_singleton.mp hon
      exact hstays (List.mem_singleton_self _)
  | split first second =>
      rcases List.mem_cons.mp hon with rfl | hon
      · exact hstays List.mem_cons_self
      · obtain rfl := List.mem_singleton.mp hon
        exact hstays (List.mem_cons_of_mem _ (List.mem_singleton_self _))
  | accept => cases hon

end Thread

/-- The spots where an instruction goes on from a spot. -/
def onward (text : Array Char) (s : Spot) (inst : Inst) : List Spot :=
  ((Thread.bare s).next text inst).map Thread.spot

theorem spot_mem_onward {text : Array Char} {t on : Thread} {inst : Inst}
    (hon : on ∈ t.next text inst) : on.spot ∈ onward text t.spot inst := by
  rw [onward, ← Thread.map_spot_next]
  exact List.mem_map_of_mem hon

theorem exists_mem_next_of_mem_onward {text : Array Char} {t : Thread} {inst : Inst} {s : Spot}
    (hs : s ∈ onward text t.spot inst) : ∃ on ∈ t.next text inst, on.spot = s := by
  rw [onward, ← Thread.map_spot_next] at hs
  exact List.mem_map.mp hs

/-- Whether some way leads from a spot to acceptance past all spots that are to be avoided. -/
inductive Leads (program : Array Inst) (text : Array Char) (avoid : Set Spot) : Spot → Prop
  | accepts {s : Spot} : s ∉ avoid → program[s.1]? = some .accept → Leads program text avoid s
  | goes {s on : Spot} {inst : Inst} : s ∉ avoid → program[s.1]? = some inst →
      on ∈ onward text s inst → Leads program text avoid on → Leads program text avoid s

/-- The thread that accepts if each time the first thread is chosen that leads to acceptance without
coming back to where the way there has been. -/
inductive Prefers (program : Array Inst) (text : Array Char) :
    Set Spot → List Thread → Thread → Prop
  | skip {avoid : Set Spot} {t found : Thread} {rest : List Thread} :
      ¬ Leads program text avoid t.spot → Prefers program text avoid rest found →
        Prefers program text avoid (t :: rest) found
  | accept {avoid : Set Spot} {t : Thread} {rest : List Thread} :
      t.spot ∉ avoid → program[t.pc]? = some .accept → Prefers program text avoid (t :: rest) t
  | go {avoid : Set Spot} {t found : Thread} {rest : List Thread} {inst : Inst} :
      t.spot ∉ avoid → program[t.pc]? = some inst →
        Prefers program text (insert t.spot avoid) (t.next text inst) found →
          Prefers program text avoid (t :: rest) found

variable {program : Array Inst} {text : Array Char} {avoid : Set Spot}

namespace Leads

theorem not_mem {s : Spot} (hleads : Leads program text avoid s) : s ∉ avoid := by
  cases hleads with
  | accepts hfresh _ => exact hfresh
  | goes hfresh _ _ _ => exact hfresh

theorem anti {fewer : Set Spot} (hsub : fewer ⊆ avoid) {s : Spot}
    (hleads : Leads program text avoid s) : Leads program text fewer s := by
  induction hleads with
  | accepts hfresh haccept => exact .accepts (fun hmem => hfresh (hsub hmem)) haccept
  | goes hfresh hinst hon _ ih => exact .goes (fun hmem => hfresh (hsub hmem)) hinst hon ih

/-- A way never has to pass a spot that leads nowhere. -/
theorem past {dead s : Spot} (hdead : ¬ Leads program text avoid dead)
    (hleads : Leads program text avoid s) : Leads program text (insert dead avoid) s := by
  have hfresh : ∀ {s : Spot}, Leads program text avoid s → s ∉ insert dead avoid := by
    rintro s hs (rfl | hmem)
    · exact hdead hs
    · exact hs.not_mem hmem
  induction hleads with
  | accepts hs haccept => exact .accepts (hfresh (.accepts hs haccept)) haccept
  | goes hs hinst hon hrest ih => exact .goes (hfresh (.goes hs hinst hon hrest)) hinst hon ih

/-- What leads to acceptance does so without coming back: at its last visit of a spot a way goes on
to where it need not pass that spot again. -/
theorem avoids_or {s begin : Spot} {inst : Inst} (hinst : program[s.1]? = some inst)
    (hne : inst ≠ .accept) (hleads : Leads program text avoid begin) :
    Leads program text (insert s avoid) begin ∨
      ∃ on ∈ onward text s inst, Leads program text (insert s avoid) on := by
  induction hleads with
  | @accepts u hfresh haccept =>
      left
      refine .accepts ?_ haccept
      rintro (rfl | hmem)
      · exact hne (Option.some.inj (hinst.symm.trans haccept))
      · exact hfresh hmem
  | @goes u on other hfresh hother hon _ ih =>
      rcases ih with hclear | hagain
      · by_cases hu : u = s
        · subst hu
          obtain rfl := Option.some.inj (hinst.symm.trans hother)
          exact .inr ⟨on, hon, hclear⟩
        · left
          refine .goes ?_ hother hon hclear
          rintro (hback | hmem)
          · exact hu hback
          · exact hfresh hmem
      · exact .inr hagain

theorem exists_onward {s : Spot} {inst : Inst} (hinst : program[s.1]? = some inst)
    (hne : inst ≠ .accept) (hleads : Leads program text avoid s) :
    ∃ on ∈ onward text s inst, Leads program text (insert s avoid) on := by
  rcases hleads.avoids_or hinst hne with hclear | honward
  · exact absurd (Set.mem_insert s avoid) hclear.not_mem
  · exact honward

end Leads

namespace Prefers

variable {threads rest : List Thread} {found : Thread}

theorem exists_leads (hfound : Prefers program text avoid threads found) :
    ∃ t ∈ threads, Leads program text avoid t.spot := by
  induction hfound with
  | skip _ _ ih =>
      obtain ⟨t, ht, hleads⟩ := ih
      exact ⟨t, List.mem_cons_of_mem _ ht, hleads⟩
  | accept hfresh haccept => exact ⟨_, List.mem_cons_self, .accepts hfresh haccept⟩
  | go hfresh hinst _ ih =>
      obtain ⟨on, hon, hleads⟩ := ih
      exact ⟨_, List.mem_cons_self,
        .goes hfresh hinst (spot_mem_onward hon) (hleads.anti (Set.subset_insert _ _))⟩

/-- What all threads have and each step keeps, the thread that accepts has. -/
theorem invariant {p : Thread → Prop} (hfound : Prefers program text avoid threads found)
    (hthreads : ∀ t ∈ threads, p t) (hstep : ∀ (t : Thread) (inst : Inst), p t →
      program[t.pc]? = some inst → ∀ on ∈ t.next text inst, p on) : p found := by
  induction hfound with
  | skip _ _ ih => exact ih fun t ht => hthreads t (List.mem_cons_of_mem _ ht)
  | accept _ _ => exact hthreads _ List.mem_cons_self
  | go _ hinst _ ih => exact ih (hstep _ _ (hthreads _ List.mem_cons_self) hinst)

theorem accepts (hfound : Prefers program text avoid threads found) :
    program[found.pc]? = some .accept := by
  induction hfound with
  | skip _ _ ih => exact ih
  | accept _ haccept => exact haccept
  | go _ _ _ ih => exact ih

theorem exists_singleton (hfound : Prefers program text avoid threads found) :
    ∃ t ∈ threads, Prefers program text avoid [t] found := by
  induction hfound with
  | skip _ _ ih =>
      obtain ⟨t, ht, hprefers⟩ := ih
      exact ⟨t, List.mem_cons_of_mem _ ht, hprefers⟩
  | accept hfresh haccept => exact ⟨_, List.mem_cons_self, .accept hfresh haccept⟩
  | go hfresh hinst hnext _ => exact ⟨_, List.mem_cons_self, .go hfresh hinst hnext⟩

/-- The first of some threads that leads to acceptance decides. -/
theorem append_iff : Prefers program text avoid (threads ++ rest) found ↔
    Prefers program text avoid threads found ∨
      (∀ t ∈ threads, ¬ Leads program text avoid t.spot) ∧
        Prefers program text avoid rest found := by
  induction threads with
  | nil =>
      refine ⟨fun hrest => .inr ⟨nofun, hrest⟩, ?_⟩
      rintro (hnone | ⟨_, hrest⟩)
      · cases hnone
      · exact hrest
  | cons t more ih =>
      constructor
      · intro hfound
        cases hfound with
        | skip hdead hmore =>
            rcases ih.mp hmore with hfound | ⟨hdeadMore, hrest⟩
            · exact .inl (.skip hdead hfound)
            · exact .inr ⟨List.forall_mem_cons.mpr ⟨hdead, hdeadMore⟩, hrest⟩
        | accept hfresh haccept => exact .inl (.accept hfresh haccept)
        | go hfresh hinst hnext => exact .inl (.go hfresh hinst hnext)
      · rintro (hfound | ⟨hdead, hrest⟩)
        · cases hfound with
          | skip hdead hmore => exact .skip hdead (ih.mpr (.inl hmore))
          | accept hfresh haccept => exact .accept hfresh haccept
          | go hfresh hinst hnext => exact .go hfresh hinst hnext
        · obtain ⟨hdeadFirst, hdeadMore⟩ := List.forall_mem_cons.mp hdead
          exact .skip hdeadFirst (ih.mpr (.inr ⟨hdeadMore, hrest⟩))

theorem cons_iff_of_not_leads {t : Thread} (hdead : ¬ Leads program text avoid t.spot) :
    Prefers program text avoid (t :: rest) found ↔ Prefers program text avoid rest found := by
  rw [← List.singleton_append, append_iff]
  constructor
  · rintro (hfound | ⟨_, hrest⟩)
    · obtain ⟨u, hu, hleads⟩ := hfound.exists_leads
      exact absurd (List.mem_singleton.mp hu ▸ hleads) hdead
    · exact hrest
  · exact fun hrest => .inr ⟨List.forall_mem_singleton.mpr hdead, hrest⟩

/-- A spot that leads nowhere may be avoided or not. -/
theorem insert_iff {dead : Spot} (hdead : ¬ Leads program text avoid dead) :
    Prefers program text (insert dead avoid) threads found ↔
      Prefers program text avoid threads found := by
  constructor
  · intro hfound
    generalize hmore : insert dead avoid = more at hfound
    induction hfound generalizing avoid with
    | skip hskipped _ ih =>
        subst hmore
        exact .skip (fun hleads => hskipped (hleads.past hdead)) (ih hdead rfl)
    | accept hfresh haccept =>
        subst hmore
        exact .accept (fun hmem => hfresh (Set.mem_insert_of_mem _ hmem)) haccept
    | go hfresh hinst _ ih =>
        subst hmore
        refine .go (fun hmem => hfresh (Set.mem_insert_of_mem _ hmem)) hinst ?_
        exact ih (fun hleads => hdead (hleads.anti (Set.subset_insert _ _)))
          (Set.insert_comm _ _ _)
  · intro hfound
    induction hfound with
    | skip hskipped _ ih =>
        exact .skip (fun hleads => hskipped (hleads.anti (Set.subset_insert _ _))) (ih hdead)
    | accept hfresh haccept =>
        refine .accept ?_ haccept
        rintro (hback | hmem)
        · exact hdead (hback ▸ .accepts hfresh haccept)
        · exact hfresh hmem
    | go hfresh hinst hnext ih =>
        refine .go ?_ hinst ?_
        · rintro (hback | hmem)
          · obtain ⟨on, hon, hleads⟩ := hnext.exists_leads
            exact hdead (hback ▸ .goes hfresh hinst (spot_mem_onward hon)
              (hleads.anti (Set.subset_insert _ _)))
          · exact hfresh hmem
        · rw [Set.insert_comm]
          exact ih fun hleads => hdead (hleads.anti (Set.subset_insert _ _))

/-- One step of a search: what a thread goes on with comes in front of the other threads. -/
theorem step_iff {t : Thread} {inst : Inst} (hfresh : t.spot ∉ avoid)
    (hinst : program[t.pc]? = some inst) (hne : inst ≠ .accept) :
    Prefers program text (insert t.spot avoid) (t.next text inst ++ rest) found ↔
      Prefers program text avoid (t :: rest) found := by
  have hdead_iff : Leads program text avoid t.spot ↔
      ∃ on ∈ t.next text inst, Leads program text (insert t.spot avoid) on.spot := by
    constructor
    · intro hleads
      obtain ⟨s, hs, honward⟩ := hleads.exists_onward hinst hne
      obtain ⟨on, hon, rfl⟩ := exists_mem_next_of_mem_onward hs
      exact ⟨on, hon, honward⟩
    · rintro ⟨on, hon, hleads⟩
      exact .goes hfresh hinst (spot_mem_onward hon) (hleads.anti (Set.subset_insert _ _))
  rw [append_iff]
  constructor
  · rintro (hnext | ⟨hdead, hrest⟩)
    · exact .go hfresh hinst hnext
    · have ht : ¬ Leads program text avoid t.spot := by
        rw [hdead_iff]
        rintro ⟨on, hon, hleads⟩
        exact hdead on hon hleads
      exact .skip ht ((insert_iff ht).mp hrest)
  · intro hfound
    cases hfound with
    | skip ht hrest =>
        refine .inr ⟨fun on hon hleads => ht (hdead_iff.mpr ⟨on, hon, hleads⟩), ?_⟩
        exact (insert_iff ht).mpr hrest
    | accept _ haccept => exact absurd (Option.some.inj (hinst.symm.trans haccept)) hne
    | go _ hother hnext =>
        obtain rfl := Option.some.inj (hinst.symm.trans hother)
        exact .inl hnext

end Prefers

/-- The spots that are marked. -/
def marked (text : Array Char) (marks : Array Bool) : Set Spot :=
  { s | s.2 ≤ text.size ∧ marks[s.1 * (text.size + 1) + s.2]? = some true }

theorem mark_inj {size pc pc' place place' : Nat} (hplace : place ≤ size) (hplace' : place' ≤ size)
    (heq : pc * (size + 1) + place = pc' * (size + 1) + place') : pc = pc' ∧ place = place' := by
  have hparts : ∀ a b : Nat, b ≤ size →
      (a * (size + 1) + b) / (size + 1) = a ∧ (a * (size + 1) + b) % (size + 1) = b :=
    fun a b hle => (Nat.div_mod_unique (Nat.succ_pos size)).mpr
      ⟨by rw [Nat.add_comm, Nat.mul_comm], Nat.lt_succ_of_le hle⟩
  obtain ⟨hdiv, hmod⟩ := hparts pc place hplace
  obtain ⟨hdiv', hmod'⟩ := hparts pc' place' hplace'
  rw [heq] at hdiv hmod
  exact ⟨hdiv.symm.trans hdiv', hmod.symm.trans hmod'⟩

theorem marked_set {marks : Array Bool} {t : Thread} (hmark : t.mark text < marks.size)
    (hplace : t.place ≤ text.size) :
    marked text (marks.set (t.mark text) true) = insert t.spot (marked text marks) := by
  ext ⟨pc, place⟩
  simp only [marked, Set.mem_ofPred_eq, Set.mem_insert_iff, Array.getElem?_set, Thread.spot,
    Prod.mk.injEq, Thread.mark]
  by_cases hsame : t.pc * (text.size + 1) + t.place = pc * (text.size + 1) + place
  · rw [if_pos hsame]
    constructor
    · rintro ⟨hle, _⟩
      have hspot := mark_inj hplace hle hsame
      exact .inl ⟨hspot.1.symm, hspot.2.symm⟩
    · rintro (⟨rfl, rfl⟩ | ⟨hle, _⟩)
      · exact ⟨hplace, rfl⟩
      · exact ⟨hle, rfl⟩
  · rw [if_neg hsame]
    constructor
    · exact .inr
    · rintro (⟨rfl, rfl⟩ | hmarked)
      · exact absurd rfl hsame
      · exact hmarked

theorem not_leads_of_marked {marks : Array Bool} {t : Thread} (hplace : t.place ≤ text.size)
    (hmark : t.mark text < marks.size) (htried : ¬ marks[t.mark text] = false) :
    ¬ Leads program text (marked text marks) t.spot := by
  intro hleads
  refine hleads.not_mem ⟨hplace, ?_⟩
  change marks[t.mark text]? = some true
  rw [Array.getElem?_eq_getElem hmark, Bool.eq_true_of_not_eq_false htried]

theorem not_leads_of_none {s : Spot} (hnone : program[s.1]? = none) :
    ¬ Leads program text avoid s := by
  intro hleads
  cases hleads with
  | accepts _ haccept => exact nomatch hnone.symm.trans haccept
  | goes _ hinst _ _ => exact nomatch hnone.symm.trans hinst

theorem spot_not_mem_marked {marks : Array Bool} {t : Thread} (hmark : t.mark text < marks.size)
    (hfresh : marks[t.mark text] = false) : t.spot ∉ marked text marks := by
  rintro ⟨_, hmarked⟩
  change marks[t.mark text]? = some true at hmarked
  rw [Array.getElem?_eq_getElem hmark, hfresh] at hmarked
  cases hmarked

/-- Running threads with marks finds what is preferred past the spots that are marked. -/
theorem run_eq_some_iff {marks : Array Bool} {threads : List Thread} {slots : Slots}
    (hsize : marks.size = program.size * (text.size + 1))
    (hplaces : ∀ t ∈ threads, t.place ≤ text.size) :
    run program text marks threads = some slots ↔
      ∃ found, Prefers program text (marked text marks) threads found ∧ found.slots = slots := by
  fun_induction run program text marks threads with
  | case1 marks =>
      constructor
      · intro hslots
        cases hslots
      · rintro ⟨found, hfound, -⟩
        cases hfound
  | case2 marks t rest hmark hfresh haccept =>
      have ht := spot_not_mem_marked hmark hfresh
      rw [Option.some.injEq]
      constructor
      · exact fun hslots => ⟨t, .accept ht haccept, hslots⟩
      · rintro ⟨found, hfound, rfl⟩
        cases hfound with
        | skip hdead _ => exact absurd (.accepts ht haccept) hdead
        | accept _ _ => rfl
        | go _ hinst hnext =>
            obtain rfl := Option.some.inj (haccept.symm.trans hinst)
            cases hnext
  | case3 marks t rest hmark hfresh inst haccept hinst ih =>
      obtain ⟨hplace, hrest⟩ := List.forall_mem_cons.mp hplaces
      have hnext : ∀ on ∈ t.next text inst ++ rest, on.place ≤ text.size := by
        intro on hon
        rcases List.mem_append.mp hon with hon | hon
        · exact (Thread.continues_of_mem_next hon).le_size hplace
        · exact hrest on hon
      rw [ih (by rw [Array.size_set, hsize]) hnext, marked_set hmark hplace]
      have hne : inst ≠ .accept := haccept
      simp only [Prefers.step_iff (spot_not_mem_marked hmark hfresh) hinst hne]
  | case4 marks t rest hmark hfresh hnone ih =>
      rw [ih hsize (List.forall_mem_cons.mp hplaces).2]
      simp only [Prefers.cons_iff_of_not_leads (not_leads_of_none (s := t.spot) hnone)]
  | case5 marks t rest hmark htried ih =>
      obtain ⟨hplace, hrest⟩ := List.forall_mem_cons.mp hplaces
      rw [ih hsize hrest]
      simp only [Prefers.cons_iff_of_not_leads (not_leads_of_marked hplace hmark htried)]
  | case6 marks t rest hmark ih =>
      obtain ⟨hplace, hrest⟩ := List.forall_mem_cons.mp hplaces
      rw [ih hsize hrest]
      have hnone : program[t.pc]? = none := by
        rw [Array.getElem?_eq_none_iff]
        refine Nat.le_of_not_lt fun hpc => hmark ?_
        have hrow : (t.pc + 1) * (text.size + 1) ≤ program.size * (text.size + 1) :=
          Nat.mul_le_mul_right _ hpc
        rw [Nat.succ_mul] at hrow
        rw [hsize, Thread.mark]
        omega
      simp only [Prefers.cons_iff_of_not_leads (not_leads_of_none (s := t.spot) hnone)]

/-- The thread that starts at a place. -/
def Thread.starting (slotCount place : Nat) : Thread := ⟨0, place, List.replicate slotCount none⟩

theorem starts_eq_map (slotCount : Nat) (text : Array Char) (start : Nat) :
    starts slotCount text start =
      (List.range' start (text.size + 1 - start)).map (Thread.starting slotCount) := rfl

/-- A search finds what is preferred of the threads it starts with. -/
theorem search_eq_some_iff {slotCount start : Nat} {slots : Slots} :
    search program slotCount text start = some slots ↔
      ∃ found, Prefers program text ∅ (starts slotCount text start) found ∧
        found.slots = slots := by
  have hplaces : ∀ t ∈ starts slotCount text start, t.place ≤ text.size := by
    intro t ht
    obtain ⟨place, hplace, rfl⟩ := List.mem_map.mp ht
    rw [List.mem_range'_1] at hplace
    change place ≤ text.size
    omega
  have hnone : marked text (Array.replicate (program.size * (text.size + 1)) false) = ∅ := by
    ext s
    simp only [marked, Array.getElem?_replicate, Set.mem_ofPred_eq, Set.mem_empty_iff_false,
      iff_false, not_and]
    intro _
    split <;> simp
  rw [search, run_eq_some_iff Array.size_replicate hplaces, hnone]

end QuickFix.Regex
