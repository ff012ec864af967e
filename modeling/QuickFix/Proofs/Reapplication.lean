import QuickFix.Proofs.Expansion
import QuickFix.Proofs.Grouping

/-!
Searching a matched text again. An expression that looks at no neighbours cannot tell a matched text
from the place where it stood: every way through the matched text alone is one through the whole
text, and the way that was chosen there ends where the matched text ends. So the same way is chosen
again, and each group takes the same text.
-/

namespace QuickFix

/-- The span in a text of a span in a part of it that starts at an offset. -/
def Span.moved (offset : Nat) (s : Span) : Span := ⟨s.start + offset, s.stop + offset⟩

namespace Regex

/-- The spot in a text of a spot in a part of it that starts at an offset. -/
def Spot.moved (offset : Nat) (s : Spot) : Spot := (s.1, s.2 + offset)

theorem Spot.moved_injective (offset : Nat) : Function.Injective (Spot.moved offset) := by
  rintro ⟨pc, place⟩ ⟨pc', place'⟩ heq
  obtain ⟨hpc, hplace⟩ := Prod.mk.inj heq
  exact Prod.ext hpc (Nat.add_right_cancel hplace)

namespace Thread

/-- The thread in a text of a thread in a part of it that starts at an offset. -/
def moved (offset : Nat) (t : Thread) : Thread :=
  ⟨t.pc, t.place + offset, t.slots.map (Option.map (· + offset))⟩

theorem spot_moved (offset : Nat) (t : Thread) : (t.moved offset).spot = t.spot.moved offset := rfl

theorem bare_moved (offset : Nat) (s : Spot) : bare (s.moved offset) = (bare s).moved offset := rfl

end Thread

variable {program : Array Inst} {text : List Char} {window : Span}

theorem getElem?_slice (window : Span) (text : List Char) (place : Nat) :
    (window.slice text)[place]? =
      if place < window.stop - window.start then text[place + window.start]? else none := by
  rw [Span.slice, List.getElem?_take, List.getElem?_drop, Nat.add_comm]

theorem length_slice (hstop : window.stop ≤ text.length) :
    (window.slice text).length = window.stop - window.start := by
  rw [Span.slice, List.length_take, List.length_drop]
  omega

/-- Inside a window a thread goes on in the text as it does in the part, and what leaves the window
is left out. -/
theorem filter_next_moved {inst : Inst} (hblind : ∀ a, inst ≠ .assert a) {t : Thread}
    (hplace : t.place + window.start ≤ window.stop) :
    ((t.moved window.start).next text.toArray inst).filter (·.place ≤ window.stop) =
      (t.next (window.slice text).toArray inst).map (Thread.moved window.start) := by
  cases inst with
  | set s =>
      simp only [Thread.next, Thread.moved, List.getElem?_toArray, getElem?_slice]
      by_cases hinside : t.place < window.stop - window.start
      · rw [if_pos hinside]
        cases text[t.place + window.start]? with
        | none => rfl
        | some c =>
            have hle : t.place + window.start + 1 ≤ window.stop := by omega
            cases hc : s.contains c <;>
              simp [hle, Nat.add_right_comm, hc, Thread.moved]
      · rw [if_neg hinside]
        have hlt : ¬ t.place + window.start + 1 ≤ window.stop := by omega
        cases text[t.place + window.start]? with
        | none => rfl
        | some c => cases hc : s.contains c <;> simp [hlt, hc]
  | assert a => exact absurd rfl (hblind a)
  | save slot => simp [Thread.next, Thread.moved, hplace, List.map_set]
  | jump target => simp [Thread.next, Thread.moved, hplace]
  | split first second => simp [Thread.next, Thread.moved, hplace]
  | accept => rfl

section Slice

variable (hblind : ∀ (pc : Nat) (a : Assertion), program[pc]? ≠ some (.assert a))
  (hstop : window.stop ≤ text.length)
include hblind hstop

/-- What leads to acceptance in a part of a text does so in the text. -/
theorem Leads.of_slice {avoid : Set Spot} {s : Spot}
    (hleads : Leads program (window.slice text).toArray
      (Set.preimage (Spot.moved window.start) avoid) s)
    (hplace : s.2 + window.start ≤ window.stop) :
    Leads program text.toArray avoid (s.moved window.start) := by
  induction hleads with
  | accepts hfresh haccept => exact .accepts hfresh haccept
  | @goes s on inst hfresh hinst hon _ ih =>
      obtain ⟨u, hu, rfl⟩ := List.mem_map.mp hon
      have hcontinues := (Thread.continues_of_mem_next hu).le_size
      rw [List.size_toArray, length_slice hstop] at hcontinues
      have hinside : u.place + window.start ≤ window.stop := by
        have hle := hcontinues (Nat.le_sub_of_add_le hplace)
        omega
      have hmoved : u.moved window.start ∈
          ((Thread.bare (s.moved window.start)).next text.toArray inst).filter
            (·.place ≤ window.stop) := by
        rw [Thread.bare_moved, filter_next_moved (fun a ha => hblind s.1 a (ha ▸ hinst)) hplace]
        exact List.mem_map_of_mem hu
      exact .goes hfresh hinst (List.mem_map_of_mem (List.mem_filter.mp hmoved).1) (ih hinside)

/-- The thread that is preferred in a text is so in a part of it that it ends in: ways only go
forward, so all of its way is inside. -/
theorem Prefers.exists_slice {avoid : Set Spot} {threads : List Thread} {found : Thread}
    (hfound : Prefers program text.toArray avoid threads found) (hend : found.place ≤ window.stop)
    {inside : List Thread}
    (hinside : threads.filter (·.place ≤ window.stop) = inside.map (Thread.moved window.start)) :
    ∃ again, again.moved window.start = found ∧
      Prefers program (window.slice text).toArray
        (Set.preimage (Spot.moved window.start) avoid) inside again := by
  induction hfound generalizing inside with
  | @skip avoid t found rest hdead _ ih =>
      by_cases hplace : t.place ≤ window.stop
      · rw [List.filter_cons_of_pos (by simpa using hplace)] at hinside
        obtain ⟨u, more, rfl, rfl, hmore⟩ := List.map_eq_cons_iff.mp hinside.symm
        obtain ⟨again, hagain, hprefers⟩ := ih hend hmore.symm
        exact ⟨again, hagain, .skip (fun hleads => hdead (hleads.of_slice hblind hstop hplace))
          hprefers⟩
      · rw [List.filter_cons_of_neg (by simpa using hplace)] at hinside
        exact ih hend hinside
  | @accept avoid t rest hfresh haccept =>
      rw [List.filter_cons_of_pos (by simpa using hend)] at hinside
      obtain ⟨u, more, rfl, rfl, _⟩ := List.map_eq_cons_iff.mp hinside.symm
      exact ⟨u, rfl, .accept hfresh haccept⟩
  | @go avoid t found rest inst hfresh hinst hnext ih =>
      have hplace : t.place ≤ window.stop := by
        refine Nat.le_trans (hnext.invariant (p := fun u => t.place ≤ u.place) ?_ ?_) hend
        · exact fun u hu => (Thread.continues_of_mem_next hu).le_place
        · exact fun u _ hu _ on hon =>
            Nat.le_trans hu (Thread.continues_of_mem_next hon).le_place
      rw [List.filter_cons_of_pos (by simpa using hplace)] at hinside
      obtain ⟨u, more, rfl, rfl, _⟩ := List.map_eq_cons_iff.mp hinside.symm
      obtain ⟨again, hagain, hprefers⟩ :=
        ih hend (filter_next_moved (fun a ha => hblind _ a (ha ▸ hinst)) hplace)
      have hpreimage : Set.preimage (Spot.moved window.start)
            (insert (u.moved window.start).spot avoid) =
          insert u.spot (Set.preimage (Spot.moved window.start) avoid) := by
        ext s
        rw [Thread.spot_moved]
        simp only [Set.mem_preimage, Set.mem_insert_iff, (Spot.moved_injective _).eq_iff]
      rw [hpreimage] at hprefers
      exact ⟨again, hagain, .go hfresh hinst hprefers⟩

end Slice

theorem starting_moved (slotCount offset place : Nat) :
    (Thread.starting slotCount place).moved offset =
      Thread.starting slotCount (offset + place) := by
  simp [Thread.starting, Thread.moved, Nat.add_comm]

/-- The places in a window are those of the part, moved. -/
theorem filter_starts {slotCount : Nat} (hstart : window.start ≤ window.stop)
    (hstop : window.stop ≤ text.length) :
    (starts slotCount text.toArray window.start).filter (·.place ≤ window.stop) =
      (starts slotCount (window.slice text).toArray 0).map (Thread.moved window.start) := by
  have hsplit : text.length + 1 - window.start =
      (window.stop - window.start + 1) + (text.length - window.stop) := by omega
  have hinside : ∀ place ∈ List.range' window.start (window.stop - window.start + 1),
      place ≤ window.stop := by
    intro place hplace
    rw [List.mem_range'_1] at hplace
    omega
  have hbehind : ∀ place ∈
      List.range' (window.start + (window.stop - window.start + 1)) (text.length - window.stop),
      ¬ place ≤ window.stop := by
    intro place hplace
    rw [List.mem_range'_1] at hplace
    omega
  rw [starts_eq_map, starts_eq_map, List.size_toArray, List.size_toArray, length_slice hstop,
    hsplit, List.filter_map, ← List.range'_append_1, List.filter_append, List.filter_eq_self.mpr,
    List.filter_eq_nil_iff.mpr, List.append_nil, Nat.sub_zero, List.map_map]
  · rw [← Nat.add_zero window.start, ← List.map_add_range', List.map_map, Nat.add_zero]
    refine List.map_congr_left fun place _ => ?_
    exact (starting_moved slotCount window.start place).symm
  · exact fun place hplace hle => hbehind place hplace (of_decide_eq_true hle)
  · exact fun place hplace => decide_eq_true (hinside place hplace)

/-- What holds of a thread of a plain program once it has left the first instruction. -/
def Thread.Opened (start : Nat) (t : Thread) : Prop :=
  t.pc ≠ 0 ∧ t.slots[0]? = some (some start)

/-- A plain program notes once where a match starts. -/
theorem Thread.Opened.next (hplain : ∀ (pc : Nat) (inst : Inst), pc ≠ 0 →
      program[pc]? = some inst → inst.Plain) {start : Nat} {t : Thread} (hopened : t.Opened start)
    {chars : Array Char} {inst : Inst} (hinst : program[t.pc]? = some inst) :
    ∀ on ∈ t.next chars inst, on.Opened start := by
  intro on hon
  have hcontinues := Thread.continues_of_mem_next hon
  have hinstPlain := hplain t.pc inst hopened.1 hinst
  constructor
  · have htarget := hcontinues.target
    cases inst with
    | set s => exact List.mem_singleton.mp htarget ▸ Nat.succ_ne_zero _
    | assert a => exact hinstPlain.elim
    | save slot => exact List.mem_singleton.mp htarget ▸ Nat.succ_ne_zero _
    | jump target => exact List.mem_singleton.mp htarget ▸ hinstPlain
    | split first second =>
        rcases List.mem_cons.mp htarget with hfirst | hsecond
        · exact hfirst ▸ hinstPlain.1
        · exact List.mem_singleton.mp hsecond ▸ hinstPlain.2
    | accept => cases htarget
  · rcases hcontinues.slots with hsame | ⟨slot, rfl, hset⟩
    · rw [hsame, hopened.2]
    · rw [hset, List.getElem?_set_ne hinstPlain, hopened.2]

/-- Whether an expression holds no condition on the place between two characters. -/
def AssertionFree (re : Regex) : Prop :=
  ∃ n, parse re.source = some n ∧ n.assertions = []

theorem Compiled.exists_node {re : Regex} (hcompiled : re.Compiled) :
    ∃ n, parse re.source = some n ∧ re.program = n.program := by
  obtain ⟨pattern, hre⟩ := hcompiled
  obtain ⟨n, hn, hweight⟩ := Option.bind_eq_some_iff.mp hre
  split at hweight
  · obtain rfl := Option.some.inj hweight
    exact ⟨n, hn, rfl⟩
  · cases hweight

theorem plain_of_assertionFree {re : Regex} (hcompiled : re.Compiled) (hfree : re.AssertionFree) :
    ∀ (pc : Nat) (inst : Inst), pc ≠ 0 → re.program[pc]? = some inst → inst.Plain := by
  obtain ⟨n, hn, hprogram⟩ := hcompiled.exists_node
  obtain ⟨n', hn', hassertions⟩ := hfree
  obtain rfl := Option.some.inj (hn.symm.trans hn')
  rw [hprogram]
  exact fun pc inst hpc hinst =>
    n.plain_program hassertions (Node.number_ne_zero_of_parse hn) hpc hinst

/-- What is known of a thread that is found: it noted first where it started and second where it
ended, and all else in between. -/
structure Thread.Ends (size start : Nat) (t : Thread) : Prop where
  opened : t.slots[0]? = some (some start)
  closed : t.slots[1]? = some (some t.place)
  noted : ∀ place, some place ∈ t.slots → start ≤ place ∧ place ≤ t.place
  start_le : start ≤ t.place
  le_size : t.place ≤ size

section Found

variable {re : Regex} (hcompiled : re.Compiled) (hfree : re.AssertionFree)
include hcompiled hfree

theorem ends_of_prefers {chars : Array Char} {start : Nat} (hstart : start ≤ chars.size)
    {found : Thread}
    (hfound : Prefers re.program chars ∅ [.starting (2 * re.groupCount) start] found) :
    found.Ends chars.size start := by
  have hpos := hcompiled.groupCount_pos
  have hcount : 2 ≤ 2 * re.groupCount := by omega
  have hsealed := hcompiled.sealed
  have hsound : found.Sound re.program chars.size start := by
    refine hfound.invariant ?_ fun t inst ht hinst => ht.next hsealed hinst
    refine List.forall_mem_singleton.mpr (sound_of_mem_starts hsealed hcount _ ?_)
    rw [starts_eq_map]
    exact List.mem_map_of_mem (List.mem_range'_1.mpr ⟨Nat.le_refl _, by omega⟩)
  have hopened : found.Opened start := by
    cases hfound with
    | skip _ hrest => cases hrest
    | accept _ haccept => exact nomatch hsealed.opens.symm.trans haccept
    | go _ hinst hnext =>
        obtain rfl := Option.some.inj (hsealed.opens.symm.trans hinst)
        refine hnext.invariant ?_ fun t inst ht hinst =>
          ht.next (plain_of_assertionFree hcompiled hfree) hinst
        refine List.forall_mem_singleton.mpr ⟨Nat.one_ne_zero, ?_⟩
        refine List.getElem?_set_self ?_
        rw [Thread.starting, List.length_replicate]
        exact Nat.lt_of_lt_of_le Nat.zero_lt_two hcount
  exact ⟨hopened.2, hsound.closed hfound.accepts, hsound.noted, hsound.start_le, hsound.le_size⟩

/-- The thread that is found in a text is found again in the part that it noted as the whole match.
-/
theorem exists_again {text : List Char} {start : Nat} {slots : Slots}
    (hsearch : search re.program (2 * re.groupCount) text.toArray start = some slots) :
    ∃ (window : Span) (found again : Thread), found.slots = slots ∧
      found.Ends text.length window.start ∧ found.place = window.stop ∧
      again.moved window.start = found ∧
      search re.program (2 * re.groupCount) (window.slice text).toArray 0 = some again.slots := by
  obtain ⟨found, hfound, hslots⟩ := search_eq_some_iff.mp hsearch
  obtain ⟨t, ht, hprefers⟩ := hfound.exists_singleton
  rw [starts_eq_map] at ht
  obtain ⟨first, hfirst, rfl⟩ := List.mem_map.mp ht
  rw [List.mem_range'_1, List.size_toArray] at hfirst
  have hinbounds : first ≤ text.toArray.size := by
    rw [List.size_toArray]
    omega
  have hends := ends_of_prefers hcompiled hfree hinbounds hprefers
  rw [List.size_toArray] at hends
  have hblind : ∀ (pc : Nat) (a : Assertion), re.program[pc]? ≠ some (.assert a) := by
    intro pc a hassert
    by_cases hpc : pc = 0
    · rw [hpc, hcompiled.sealed.opens] at hassert
      cases hassert
    · exact plain_of_assertionFree hcompiled hfree pc _ hpc hassert
  have hstarts : starts (2 * re.groupCount) text.toArray first =
      .starting (2 * re.groupCount) first ::
        starts (2 * re.groupCount) text.toArray (first + 1) := by
    have hcount : text.toArray.size + 1 - first = (text.toArray.size + 1 - (first + 1)) + 1 := by
      rw [List.size_toArray]
      omega
    rw [starts_eq_map, hcount, List.range'_succ, List.map_cons, starts_eq_map]
  have hall : Prefers re.program text.toArray ∅ (starts (2 * re.groupCount) text.toArray first)
      found := by
    rw [hstarts, ← List.singleton_append]
    exact Prefers.append_iff.mpr (.inl hprefers)
  let window : Span := ⟨first, found.place⟩
  have hstop : window.stop ≤ text.length := hends.le_size
  obtain ⟨again, hagain, hinside⟩ := hall.exists_slice hblind hstop (Nat.le_refl _)
    (filter_starts hends.start_le hends.le_size)
  rw [Set.preimage_empty] at hinside
  exact ⟨window, found, again, hslots, hends, rfl, hagain,
    search_eq_some_iff.mpr ⟨again, hinside, rfl⟩⟩

end Found

theorem spansOf_moved (offset : Nat) (slots : Slots) :
    spansOf (slots.map (Option.map (· + offset))) =
      (spansOf slots).map (Option.map (Span.moved offset)) := by
  fun_induction spansOf slots with
  | case1 a b rest ih => simpa [spansOf, Span.moved] using ih
  | case2 a b rest hunnoted ih =>
      cases a with
      | none => simpa [spansOf] using ih
      | some a =>
          cases b with
          | none => simpa [spansOf] using ih
          | some b => exact (hunnoted a b rfl rfl).elim
  | case3 slots hnoted hpair =>
      rcases slots with _ | ⟨a, _ | ⟨b, rest⟩⟩
      · rfl
      · cases a <;> rfl
      · exact (hpair a b rest rfl).elim

theorem mem_of_mem_spansOf {slots : Slots} {s : Span} (hs : some s ∈ spansOf slots) :
    some s.start ∈ slots ∧ some s.stop ∈ slots := by
  fun_induction spansOf slots with
  | case1 a b rest ih =>
      rcases List.mem_cons.mp hs with heq | hrest
      · obtain rfl := Option.some.inj heq
        simp
      · simp [ih hrest]
  | case2 a b rest hunnoted ih =>
      rcases List.mem_cons.mp hs with heq | hrest
      · cases heq
      · simp [ih hrest]
  | case3 slots hnoted hpair => cases hs

theorem slice_moved {s window : Span} (hs : s.stop ≤ window.stop - window.start)
    (text : List Char) :
    (s.moved window.start).slice text = s.slice (window.slice text) := by
  have hcount : min (s.stop - s.start) (window.stop - window.start - s.start) =
      s.stop - s.start := by omega
  rw [Span.slice, Span.slice, Span.slice, List.drop_take, List.drop_drop, List.take_take, hcount,
    Span.moved, Nat.add_sub_add_right, Nat.add_comm]

theorem getElem?_zero_spansOf {slots : Slots} {first last : Nat}
    (hfirst : slots[0]? = some (some first)) (hlast : slots[1]? = some (some last)) :
    (spansOf slots)[0]? = some (some ⟨first, last⟩) := by
  match slots with
  | [] => cases hfirst
  | [_] => cases hlast
  | a :: b :: rest =>
      obtain rfl := Option.some.inj hfirst
      obtain rfl := Option.some.inj hlast
      rfl

theorem Spans.whole_of_getElem?_zero {spans : Spans} {s : Span}
    (hzero : spans[0]? = some (some s)) : Spans.whole spans = s := by
  match spans with
  | [] => cases hzero
  | first :: rest =>
      obtain rfl := Option.some.inj hzero
      rfl

theorem getElem?_of_map_add {slots : Slots} {offset place index : Nat}
    (hmoved : (slots.map (Option.map (· + offset)))[index]? = some (some (place + offset))) :
    slots[index]? = some (some place) := by
  rw [List.getElem?_map, Option.map_eq_some_iff] at hmoved
  obtain ⟨noted, hnoted, hsome⟩ := hmoved
  obtain ⟨place', rfl, heq⟩ := Option.map_eq_some_iff.mp hsome
  rw [hnoted, Nat.add_right_cancel heq]

/-- What a search finds is found again in the matched text alone, group by group. -/
theorem exists_matchFrom?_slice {re : Regex} (hcompiled : re.Compiled) (hfree : re.AssertionFree)
    {text : List Char} {start : Nat} {spans : Spans}
    (hmatch : re.matchFrom? text start = some spans) :
    ∃ again, re.matchFrom? ((Spans.whole spans).slice text) 0 = some again ∧
      again[0]? = some (some ⟨0, ((Spans.whole spans).slice text).length⟩) ∧
      Captured.ofSpans re ((Spans.whole spans).slice text) again =
        Captured.ofSpans re text spans := by
  obtain ⟨slots, hsearch, rfl⟩ := Option.map_eq_some_iff.mp hmatch
  obtain ⟨window, found, again, rfl, hends, hstop, rfl, hagain⟩ :=
    exists_again hcompiled hfree hsearch
  have hplace : again.place + window.start = window.stop := hstop
  have hlength : window.stop ≤ text.length := hstop ▸ hends.le_size
  have hwhole : Spans.whole (spansOf (again.moved window.start).slots) = window := by
    rw [Spans.whole_of_getElem?_zero (getElem?_zero_spansOf hends.opened hends.closed), hstop]
  have hopened : again.slots[0]? = some (some 0) :=
    getElem?_of_map_add (hends.opened.trans (by rw [Nat.zero_add]))
  have hclosed : again.slots[1]? = some (some again.place) := getElem?_of_map_add hends.closed
  rw [hwhole]
  refine ⟨spansOf again.slots, by rw [matchFrom?, hagain, Option.map_some], ?_, ?_⟩
  · rw [getElem?_zero_spansOf hopened hclosed, length_slice hlength, ← hplace,
      Nat.add_sub_cancel_right]
  · rw [Thread.moved, spansOf_moved, Captured.ofSpans, Captured.ofSpans, List.map_map]
    congr 1
    refine List.map_congr_left fun span hspan => ?_
    cases span with
    | none => rfl
    | some s =>
        have hnoted : some (s.stop + window.start) ∈ (again.moved window.start).slots :=
          List.mem_map_of_mem (mem_of_mem_spansOf hspan).2
        have hle := (hends.noted _ hnoted).2
        rw [hstop] at hle
        simp only [Function.comp_apply, Option.map_some, slice_moved (Nat.le_sub_of_add_le hle)]

end Regex

namespace Captured

open ReplacementPart

/-- The text of a group as it was captured; empty if the group took no part. -/
def groupText (m : Captured) (index : Nat) : List Char := ((m.group? index).getD "").toList

/-- What a part of a replacement string stands for if the match is all there is: the groups as they
were captured, and nothing in front of the match or behind it. -/
def part (m : Captured) : ReplacementPart → List Char
  | .literal c => [c]
  | .dollar => ['$']
  | .whole => m.matched.toList
  | .before => []
  | .behind => []
  | .named name =>
    match m.pattern.names.findIdx? (· == some (String.ofList name)) with
    | some index => m.groupText index
    | none => []
  | .oneDigit n => m.groupText n
  | .twoDigits tens units => m.groupText (tens * 10 + units)

/-- What it is for a match to be found again, with the same groups, in the matched text alone. -/
structure GivesBack (m : Captured) : Prop where
  /-- The first match in the matched text is all of it, with the same text in every group and the
  same groups taking part. -/
  again : ∃ spans, m.pattern.matchFrom? m.matched.toList 0 = some spans ∧
    spans[0]? = some (some ⟨0, m.matched.toList.length⟩) ∧
    ofSpans m.pattern m.matched.toList spans = m
  /-- What a replacement string stands for is told by the groups as they were captured. -/
  substitute : ∀ replacement : String, ∃ parts,
    Reads m.groups.length m.pattern.names replacement.toList parts ∧
      (∀ other, Reads m.groups.length m.pattern.names replacement.toList other → other = parts) ∧
      m.substitute replacement = String.ofList (parts.flatMap m.part)

theorem group_eq_groupText (re : Regex) (text : List Char) (spans : Regex.Spans)
    (names : List (Option String)) (index : Nat) :
    Expansion.group ⟨text, spans, names⟩ index = (ofSpans re text spans).groupText index := by
  simp only [Expansion.group, groupText, group?, ofSpans, List.getElem?_map]
  cases spans[index]? with
  | none => simp
  | some span => cases span <;> simp

variable {m : Captured} {spans : Regex.Spans}

theorem value_eq_part (hzero : spans[0]? = some (some ⟨0, m.matched.toList.length⟩))
    (hm : ofSpans m.pattern m.matched.toList spans = m) (p : ReplacementPart) :
    value ⟨m.matched.toList, spans, m.pattern.names⟩ p = m.part p := by
  have hgroup : ∀ index, Expansion.group ⟨m.matched.toList, spans, m.pattern.names⟩ index =
      m.groupText index := by
    intro index
    rw [group_eq_groupText m.pattern, hm]
  have hwhole := Regex.Spans.whole_of_getElem?_zero hzero
  cases p with
  | literal c => rfl
  | dollar => rfl
  | whole =>
      rw [value, hgroup, part, matched]
      rfl
  | before => simp [value, part, hwhole]
  | behind => simp [value, part, hwhole]
  | named name =>
      rw [value, part, Expansion.named]
      cases m.pattern.names.findIdx? (· == some (String.ofList name)) with
      | none => rfl
      | some index => exact hgroup index
  | oneDigit n => exact hgroup n
  | twoDigits tens units => exact hgroup _

/-- If the match is all of its matched text, nothing stands around what a replacement string is read
as. -/
theorem substitute_of_whole (hagain : m.pattern.matchFrom? m.matched.toList 0 = some spans)
    (hzero : spans[0]? = some (some ⟨0, m.matched.toList.length⟩)) {replacement : String}
    {parts : List ReplacementPart}
    (hreads : Reads spans.length m.pattern.names replacement.toList parts) :
    m.substitute replacement =
      String.ofList (parts.flatMap (value ⟨m.matched.toList, spans, m.pattern.names⟩)) := by
  rw [substitute_eq hagain, Expansion.expand_of_reads hreads,
    Regex.Spans.whole_of_getElem?_zero hzero, List.take_zero, List.nil_append, List.drop_length,
    List.append_nil]

/-- Once the match is found again, replacement strings stand for what was captured. -/
theorem givesBack_of_again (hagain : m.pattern.matchFrom? m.matched.toList 0 = some spans)
    (hzero : spans[0]? = some (some ⟨0, m.matched.toList.length⟩))
    (hm : ofSpans m.pattern m.matched.toList spans = m) : m.GivesBack where
  again := ⟨spans, hagain, hzero, hm⟩
  substitute replacement := by
    have hgroups : m.groups.length = spans.length := by
      rw [← hm, ofSpans, List.length_map]
    obtain ⟨parts, hparts⟩ := exists_reads m.groups.length m.pattern.names replacement.toList
    refine ⟨parts, hparts, fun other hother => hparts.unique hother, ?_⟩
    rw [hgroups] at hparts
    rw [substitute_of_whole hagain hzero hparts]
    congr 1
    exact List.flatMap_congr fun p _ => value_eq_part hzero hm p

/-- An expression without assertions gives back what it captured: in the matched text alone it finds
all of that text, with the same groups. -/
theorem givesBack_of_matchFrom? {re : Regex} (hcompiled : re.Compiled) (hfree : re.AssertionFree)
    {text : List Char} {start : Nat} (hmatch : re.matchFrom? text start = some spans) :
    (ofSpans re text spans).GivesBack := by
  obtain ⟨again, hagain, hzero, hm⟩ := Regex.exists_matchFrom?_slice hcompiled hfree hmatch
  rw [← matched_ofSpans re] at hagain hzero hm
  exact givesBack_of_again hagain hzero hm

end Captured

namespace ReapplicationWitness

/-- A lazy repetition that could have gone on, and a group that need not take part. -/
def lazy : Regex :=
  ⟨"(a+?)(b)?", #[.save 0, .save 2, .set (.bands [⟨97, 97, 1⟩]), .split 4 2, .save 3, .split 6 9,
    .save 4, .set (.bands [⟨98, 98, 1⟩]), .save 5, .save 1, .accept], [none, none, none]⟩

theorem compiled : lazy.Compiled := ⟨"(a+?)(b)?", by cbv⟩

theorem assertionFree : lazy.AssertionFree := by
  refine ⟨.cat (.group 1 none (.repeated (.set (.bands [⟨97, 97, 1⟩])) 1 none false))
    (.repeated (.group 2 none (.set (.bands [⟨98, 98, 1⟩]))) 0 (some 1) true), by cbv, rfl⟩

theorem matchFrom?_text :
    lazy.matchFrom? ['b', 'a', 'a', 'b'] 0 = some [some ⟨1, 2⟩, some ⟨1, 2⟩, none] := by cbv

/-- In a text that goes on behind it, the first letter alone is matched, and so it is when it stands
alone; the second group is empty. -/
theorem givesBack_lazy :
    lazy.Compiled ∧ lazy.AssertionFree ∧
      lazy.matchFrom? ['b', 'a', 'a', 'b'] 0 = some [some ⟨1, 2⟩, some ⟨1, 2⟩, none] ∧
      (Captured.mk [some "a", some "a", none] lazy).GivesBack :=
  ⟨compiled, assertionFree, matchFrom?_text,
    Captured.givesBack_of_matchFrom? compiled assertionFree matchFrom?_text⟩

end ReapplicationWitness

end QuickFix
