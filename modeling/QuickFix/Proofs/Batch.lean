import Mathlib.Data.List.Basic
import QuickFix.Proofs.Lines
import QuickFix.Proofs.StableSort
import QuickFix.Proofs.Workspace

/-!
Batches of edits as one replacement. The text with all edits made at once is written down offset by
offset, without a word about the order in which edits are made. Where no two edits overlap, applying
the batch from the back to the front gives that text.
-/

namespace QuickFix.Document

namespace Splice

/-- Whether the character at an offset is replaced. -/
def Covers (s : Splice) (offset : Nat) : Prop := s.start ≤ offset ∧ offset < s.stop

instance (s : Splice) (offset : Nat) : Decidable (s.Covers offset) :=
  inferInstanceAs (Decidable (_ ∧ _))

/-- Whether nothing is replaced. -/
def IsInsertion (s : Splice) : Prop := s.start = s.stop

instance (s : Splice) : Decidable s.IsInsertion := inferInstanceAs (Decidable (_ = _))

/-- Two splices do not overlap if they replace no character in common and neither inserts strictly
inside what the other replaces. -/
structure Apart (s t : Splice) : Prop where
  disjoint : ∀ offset, ¬ (s.Covers offset ∧ t.Covers offset)
  left : s.IsInsertion → ¬ (t.start < s.start ∧ s.start < t.stop)
  right : t.IsInsertion → ¬ (s.start < t.start ∧ t.start < s.stop)

/-- What a batch inserts at an offset, in the order of the batch. -/
def insertedAt (batch : List Splice) (offset : Nat) : List Char :=
  (batch.filter fun s => s.IsInsertion ∧ s.start = offset).flatMap newText

/-- What a batch puts in place of the characters from an offset on. -/
def replacedAt (batch : List Splice) (offset : Nat) : List Char :=
  (batch.filter fun s => ¬ s.IsInsertion ∧ s.start = offset).flatMap newText

/-- The character at an offset, unless a batch replaces it. -/
def keptAt (text : List Char) (batch : List Splice) (offset : Nat) : List Char :=
  if batch.any fun s => s.Covers offset then [] else text[offset]?.toList

/-- What stands at an offset once a batch is made: first what is inserted there, then what replaces
the characters from there on, or else the character that was there. -/
def standingAt (text : List Char) (batch : List Splice) (offset : Nat) : List Char :=
  insertedAt batch offset ++ replacedAt batch offset ++ keptAt text batch offset

/-- The text with all splices of a batch made at once. -/
def atOnce (text : List Char) (batch : List Splice) : List Char :=
  (List.range (text.length + 1)).flatMap (standingAt text batch)

theorem before_trans (a b c : Splice) (hab : a.before b = true) (hbc : b.before c = true) :
    a.before c = true := by
  simp only [before, Bool.or_eq_true, Bool.and_eq_true, decide_eq_true_eq] at *
  omega

theorem before_total (a b : Splice) : (a.before b || b.before a) = true := by
  simp only [before, Bool.or_eq_true, Bool.and_eq_true, decide_eq_true_eq]
  omega

/-- Of two splices that do not overlap, one ends where the other begins or before. -/
theorem apart_iff {s t : Splice} (hs : s.start ≤ s.stop) (ht : t.start ≤ t.stop) :
    s.Apart t ↔ s.stop ≤ t.start ∨ t.stop ≤ s.start := by
  constructor
  · rintro ⟨hdisjoint, hleft, hright⟩
    have hs' := hdisjoint s.start
    have ht' := hdisjoint t.start
    simp only [Covers, IsInsertion] at *
    omega
  · intro hside
    refine ⟨?_, ?_, ?_⟩ <;> simp only [Covers, IsInsertion] <;> omega

variable {text : List Char} {batch : List Splice} {s : Splice} {offset : Nat}

theorem insertedAt_cons : insertedAt (s :: batch) offset =
    (if s.IsInsertion ∧ s.start = offset then s.newText else []) ++ insertedAt batch offset := by
  by_cases hs : s.IsInsertion ∧ s.start = offset <;> simp [insertedAt, hs]

theorem replacedAt_cons : replacedAt (s :: batch) offset =
    (if ¬ s.IsInsertion ∧ s.start = offset then s.newText else []) ++ replacedAt batch offset := by
  by_cases hs : ¬ s.IsInsertion ∧ s.start = offset <;> simp [replacedAt, hs]

theorem keptAt_cons : keptAt text (s :: batch) offset =
    if s.Covers offset then [] else keptAt text batch offset := by
  by_cases hs : s.Covers offset <;> simp [keptAt, hs]

/-- A splice does not touch an offset where it neither begins nor replaces the character. -/
def Untouched (s : Splice) (offset : Nat) : Prop := s.start ≠ offset ∧ ¬ s.Covers offset

theorem standingAt_cons_of_untouched (huntouched : s.Untouched offset) :
    standingAt text (s :: batch) offset = standingAt text batch offset := by
  obtain ⟨hstart, hcovers⟩ := huntouched
  simp [standingAt, insertedAt_cons, replacedAt_cons, keptAt_cons, hstart, hcovers]

theorem insertedAt_of_untouched (huntouched : ∀ s ∈ batch, s.Untouched offset) :
    insertedAt batch offset = [] := by
  induction batch with
  | nil => rfl
  | cons s rest ih =>
      rw [insertedAt_cons, ih fun t ht => huntouched t (List.mem_cons_of_mem s ht)]
      simp [(huntouched s List.mem_cons_self).1]

theorem replacedAt_of_untouched (huntouched : ∀ s ∈ batch, s.Untouched offset) :
    replacedAt batch offset = [] := by
  induction batch with
  | nil => rfl
  | cons s rest ih =>
      rw [replacedAt_cons, ih fun t ht => huntouched t (List.mem_cons_of_mem s ht)]
      simp [(huntouched s List.mem_cons_self).1]

theorem standingAt_of_untouched (huntouched : ∀ s ∈ batch, s.Untouched offset) :
    standingAt text batch offset = text[offset]?.toList := by
  have hcovers : batch.any (fun s => s.Covers offset) = false := by
    simpa using fun s hs => (huntouched s hs).2
  simp [standingAt, insertedAt_of_untouched huntouched, replacedAt_of_untouched huntouched,
    keptAt, hcovers]

theorem standingAt_cons_of_insertion (hinsertion : s.IsInsertion) (hstart : s.start = offset) :
    standingAt text (s :: batch) offset = s.newText ++ standingAt text batch offset := by
  have hcovers : ¬ s.Covers offset := by
    simp only [Covers, IsInsertion] at *
    omega
  simp [standingAt, insertedAt_cons, replacedAt_cons, keptAt_cons, hstart, hinsertion, hcovers]

/-- Where no other splice touches what a splice replaces, its text stands there alone. -/
theorem standingAt_cons_of_covers (hcovers : s.Covers offset)
    (huntouched : ∀ t ∈ batch, t.Untouched offset) :
    standingAt text (s :: batch) offset = if s.start = offset then s.newText else [] := by
  have hreplacement : ¬ s.IsInsertion := by
    simp only [Covers, IsInsertion] at *
    omega
  simp [standingAt, insertedAt_cons, replacedAt_cons, keptAt_cons, hreplacement, hcovers,
    insertedAt_of_untouched huntouched, replacedAt_of_untouched huntouched]

/-- What stands from an offset on once a batch is made. -/
def standingFrom (text : List Char) (batch : List Splice) (start : Nat) : List Char :=
  (List.range' start (text.length + 1 - start)).flatMap (standingAt text batch)

theorem atOnce_eq_standingFrom : atOnce text batch = standingFrom text batch 0 := by
  rw [atOnce, standingFrom, List.range_eq_range', Nat.sub_zero]

theorem standingFrom_split {start stop : Nat} (hle : start ≤ stop) (hstop : stop ≤ text.length) :
    standingFrom text batch start =
      (List.range' start (stop - start)).flatMap (standingAt text batch) ++
        standingFrom text batch stop := by
  have hcount : text.length + 1 - start = (stop - start) + (text.length + 1 - stop) := by omega
  have hstart : stop = start + (stop - start) := by omega
  rw [standingFrom, hcount, ← List.range'_append_1, List.flatMap_append, ← hstart, standingFrom]

theorem standingFrom_eq_cons {start : Nat} (hstart : start ≤ text.length) :
    standingFrom text batch start =
      standingAt text batch start ++ standingFrom text batch (start + 1) := by
  have hcount : text.length + 1 - start = (text.length + 1 - (start + 1)) + 1 := by omega
  rw [standingFrom, hcount, List.range'_succ, List.flatMap_cons, standingFrom]

theorem standingFrom_cons_of_untouched {start : Nat}
    (huntouched : ∀ offset, start ≤ offset → s.Untouched offset) :
    standingFrom text (s :: batch) start = standingFrom text batch start := by
  apply List.flatMap_congr
  intro offset hoffset
  exact standingAt_cons_of_untouched (huntouched offset (List.mem_range'_1.mp hoffset).1)

/-- A stretch that no splice touches stands as it was. -/
theorem flatMap_standingAt_of_untouched {start count : Nat}
    (huntouched : ∀ offset, start ≤ offset → offset < start + count →
      ∀ s ∈ batch, s.Untouched offset) :
    (List.range' start count).flatMap (standingAt text batch) = (text.drop start).take count := by
  induction count generalizing start with
  | zero => simp
  | succ count ih =>
      rw [List.range'_succ, List.flatMap_cons, ih fun i h₁ h₂ => huntouched i (by omega) (by omega),
        standingAt_of_untouched (huntouched start (Nat.le_refl _) (by omega))]
      by_cases hstart : start < text.length
      · rw [List.drop_eq_getElem_cons hstart, List.take_succ_cons, List.getElem?_eq_getElem hstart]
        rfl
      · simp [List.getElem?_eq_none (Nat.le_of_not_lt hstart),
          List.drop_eq_nil_of_le (Nat.le_of_not_lt hstart),
          List.drop_eq_nil_of_le (Nat.le_succ_of_le (Nat.le_of_not_lt hstart))]

/-- Where the first of some splices begins, its text stands, and behind its end the others go on. -/
theorem standingFrom_cons_start (hs : s.start ≤ s.stop) (hlength : s.stop ≤ text.length)
    (hbehind : ∀ t ∈ batch, s.stop ≤ t.start) :
    standingFrom text (s :: batch) s.start = s.newText ++ standingFrom text batch s.stop := by
  by_cases hinsertion : s.IsInsertion
  · have hstop : s.stop = s.start := hinsertion.symm
    have huntouched : ∀ offset, s.start + 1 ≤ offset → s.Untouched offset := by
      intro offset hoffset
      exact ⟨by omega, by simp only [Covers]; omega⟩
    rw [hstop, standingFrom_eq_cons (Nat.le_trans hs hlength), standingAt_cons_of_insertion hinsertion rfl,
      standingFrom_cons_of_untouched huntouched, List.append_assoc,
      ← standingFrom_eq_cons (Nat.le_trans hs hlength)]
  · have hlt : s.start < s.stop := Nat.lt_of_le_of_ne hs hinsertion
    have hrest : ∀ offset, offset < s.stop → ∀ t ∈ batch, t.Untouched offset := by
      intro offset hoffset t ht
      have := hbehind t ht
      exact ⟨by omega, by simp only [Covers]; omega⟩
    have huntouched : ∀ offset, s.stop ≤ offset → s.Untouched offset := by
      intro offset hoffset
      exact ⟨by omega, by simp only [Covers]; omega⟩
    have hfirst : standingAt text (s :: batch) s.start = s.newText := by
      rw [standingAt_cons_of_covers ⟨Nat.le_refl _, hlt⟩ (hrest _ hlt), if_pos rfl]
    have hinside : (List.range' (s.start + 1) (s.stop - (s.start + 1))).flatMap
        (standingAt text (s :: batch)) = [] := by
      rw [List.flatMap_eq_nil_iff]
      intro offset hoffset
      have hrange := List.mem_range'_1.mp hoffset
      have hcovers : s.Covers offset := ⟨by omega, by omega⟩
      rw [standingAt_cons_of_covers hcovers (hrest _ hcovers.2), if_neg (by omega)]
    rw [standingFrom_eq_cons (Nat.le_trans hs hlength), hfirst, standingFrom_split hlt hlength, hinside,
      List.nil_append, standingFrom_cons_of_untouched huntouched]

/-- Splices of a text in order, none of which begins before the one in front of it ends. -/
structure Ordered (text : List Char) (batch : List Splice) : Prop where
  bounds : ∀ s ∈ batch, s.start ≤ s.stop ∧ s.stop ≤ text.length
  behind : batch.Pairwise fun s t => s.stop ≤ t.start

theorem Ordered.tail (hordered : Ordered text (s :: batch)) : Ordered text batch where
  bounds t ht := hordered.bounds t (List.mem_cons_of_mem s ht)
  behind := hordered.behind.of_cons

/-- A splice of a text whose part in front of the end of the splice is not changed yet. -/
theorem apply_take_append (hs : s.start ≤ s.stop) (hlength : s.stop ≤ text.length)
    (behind : List Char) :
    s.apply (text.take s.stop ++ behind) = text.take s.start ++ s.newText ++ behind := by
  have hstop : (text.take s.stop).length = s.stop := by simp [hlength]
  have htake : (text.take s.stop ++ behind).take s.start = text.take s.start := by
    rw [List.take_append_of_le_length (by omega), List.take_take, Nat.min_eq_left hs]
  have hdrop : (text.take s.stop ++ behind).drop s.stop = behind := List.drop_left' hstop
  have hstart : (text.take s.start).length = s.start := by simp [Nat.le_trans hs hlength]
  rw [apply, Text.eraseAt, Nat.add_sub_cancel' hs, htake, hdrop, Text.insertAt,
    List.take_left' hstart, List.drop_left' hstart]

/-- Made from the last one to the first, splices in order leave standing what they would at once. -/
theorem foldr_apply (hordered : Ordered text batch) {start : Nat} (hlength : start ≤ text.length)
    (hstart : ∀ s ∈ batch, start ≤ s.start) :
    batch.foldr apply text = text.take start ++ standingFrom text batch start := by
  induction batch generalizing start with
  | nil =>
      have hstanding : standingFrom text [] start = text.drop start := by
        rw [standingFrom, flatMap_standingAt_of_untouched (by simp)]
        exact List.take_of_length_le (by rw [List.length_drop]; omega)
      rw [List.foldr_nil, hstanding, List.take_append_drop]
  | cons s rest ih =>
      obtain ⟨hs, hstop⟩ := hordered.bounds s List.mem_cons_self
      have hbehind : ∀ t ∈ rest, s.stop ≤ t.start := (List.pairwise_cons.mp hordered.behind).1
      have hbefore : start ≤ s.start := hstart s List.mem_cons_self
      have huntouched : ∀ offset, start ≤ offset → offset < start + (s.start - start) →
          ∀ t ∈ s :: rest, t.Untouched offset := by
        intro offset _ hoffset t ht
        have hle : s.start ≤ t.start := by
          rcases List.mem_cons.mp ht with rfl | hrest
          · exact Nat.le_refl _
          · exact Nat.le_trans hs (hbehind t hrest)
        exact ⟨by omega, by simp only [Covers]; omega⟩
      have htake : text.take s.start = text.take start ++ (text.drop start).take (s.start - start) := by
        rw [← List.take_add, Nat.add_sub_cancel' hbefore]
      calc
        (s :: rest).foldr apply text
            = s.apply (text.take s.stop ++ standingFrom text rest s.stop) := by
          rw [List.foldr_cons, ih hordered.tail hstop hbehind]
        _ = text.take s.start ++ s.newText ++ standingFrom text rest s.stop :=
          apply_take_append hs hstop _
        _ = text.take start ++ ((text.drop start).take (s.start - start) ++
              standingFrom text (s :: rest) s.start) := by
          rw [standingFrom_cons_start hs hstop hbehind, htake]
          simp only [List.append_assoc]
        _ = text.take start ++ standingFrom text (s :: rest) start := by
          rw [standingFrom_split hbefore (Nat.le_trans hs hstop),
            flatMap_standingAt_of_untouched huntouched]

theorem Apart.symm {s t : Splice} (hapart : s.Apart t) : t.Apart s where
  disjoint offset hboth := hapart.disjoint offset hboth.symm
  left := hapart.right
  right := hapart.left

theorem mergeSort_perm (batch : List Splice) : (batch.mergeSort before).Perm batch :=
  List.mergeSort_perm batch before

theorem insertedAt_mergeSort (batch : List Splice) (offset : Nat) :
    insertedAt (batch.mergeSort before) offset = insertedAt batch offset := by
  rw [insertedAt, filter_mergeSort before_trans before_total, insertedAt]
  apply List.pairwise_of_forall_mem_list
  intro s hs t ht
  obtain ⟨hsi, hss⟩ := of_decide_eq_true (List.mem_filter.mp hs).2
  obtain ⟨hti, hts⟩ := of_decide_eq_true (List.mem_filter.mp ht).2
  simp only [IsInsertion, before, Bool.or_eq_true, Bool.and_eq_true, decide_eq_true_eq] at *
  omega

theorem replacedAt_mergeSort (hbounds : ∀ s ∈ batch, s.start ≤ s.stop)
    (hapart : batch.Pairwise Apart) (offset : Nat) :
    replacedAt (batch.mergeSort before) offset = replacedAt batch offset := by
  rw [replacedAt, filter_mergeSort before_trans before_total, replacedAt]
  refine (hapart.filter _).imp_of_mem ?_
  intro s t hs ht hst
  obtain ⟨hsbatch, hschosen⟩ := List.mem_filter.mp hs
  obtain ⟨htbatch, htchosen⟩ := List.mem_filter.mp ht
  obtain ⟨hsi, hss⟩ := of_decide_eq_true hschosen
  obtain ⟨hti, hts⟩ := of_decide_eq_true htchosen
  have hside := (apart_iff (hbounds s hsbatch) (hbounds t htbatch)).mp hst
  have hsle := hbounds s hsbatch
  have htle := hbounds t htbatch
  simp only [IsInsertion] at hsi hti
  omega

/-- To make a batch at once it need not be sorted. -/
theorem atOnce_mergeSort (hbounds : ∀ s ∈ batch, s.start ≤ s.stop)
    (hapart : batch.Pairwise Apart) :
    atOnce text (batch.mergeSort before) = atOnce text batch := by
  have hstanding : standingAt text (batch.mergeSort before) = standingAt text batch := by
    funext offset
    rw [standingAt, insertedAt_mergeSort, replacedAt_mergeSort hbounds hapart, keptAt,
      (mergeSort_perm batch).any_eq, standingAt, keptAt]
  rw [atOnce, hstanding, atOnce]

/-- Sorting puts splices that do not overlap in order. -/
theorem ordered_mergeSort (hbounds : ∀ s ∈ batch, s.start ≤ s.stop ∧ s.stop ≤ text.length)
    (hapart : batch.Pairwise Apart) : Ordered text (batch.mergeSort before) where
  bounds s hs := hbounds s ((mergeSort_perm batch).mem_iff.mp hs)
  behind := by
    have hsorted := List.pairwise_mergeSort before_trans before_total batch
    have happart := ((mergeSort_perm batch).pairwise_iff Apart.symm).mpr hapart
    refine (hsorted.and happart).imp_of_mem ?_
    rintro s t hs ht ⟨hbefore, hst⟩
    have hsle := (hbounds s ((mergeSort_perm batch).mem_iff.mp hs)).1
    have htle := (hbounds t ((mergeSort_perm batch).mem_iff.mp ht)).1
    have hside := (apart_iff hsle htle).mp hst
    simp only [before, Bool.or_eq_true, Bool.and_eq_true, decide_eq_true_eq] at hbefore
    omega

end Splice

variable (d : Document) {edits : List TextEdit}

theorem splice_bounds (edit : TextEdit) :
    (d.splice edit).start ≤ (d.splice edit).stop ∧ (d.splice edit).stop ≤ d.chars.length := by
  have hstart := Text.offsetAt_le d.chars edit.range.start
  have hstop := Text.offsetAt_le d.chars edit.range.stop
  simp only [splice, offsetAt]
  omega

/-- The place that an edit means, as two offsets in order. -/
def span (edit : TextEdit) : Nat × Nat := ((d.splice edit).start, (d.splice edit).stop)

/-- Whether no two edits of a batch overlap. -/
def Compatible (edits : List TextEdit) : Prop := (edits.map d.splice).Pairwise Splice.Apart

theorem compatible_iff : d.Compatible edits ↔ edits.Pairwise fun a b =>
    (d.span a).2 ≤ (d.span b).1 ∨ (d.span b).2 ≤ (d.span a).1 := by
  have happart : ∀ a b, (d.splice a).Apart (d.splice b) ↔
      (d.span a).2 ≤ (d.span b).1 ∨ (d.span b).2 ≤ (d.span a).1 :=
    fun a b => Splice.apart_iff (d.splice_bounds a).1 (d.splice_bounds b).1
  simp only [Compatible, List.pairwise_map, happart]

/-- The text of a document with all edits of a batch made at once. -/
def atOnce (edits : List TextEdit) : List Char := Splice.atOnce d.chars (edits.map d.splice)

/-- Edits that do not overlap are made as if at once. -/
theorem chars_applyEdits (hcompatible : d.Compatible edits) :
    (d.applyEdits edits).1.chars = d.atOnce edits := by
  have hbounds : ∀ s ∈ edits.map d.splice, s.start ≤ s.stop ∧ s.stop ≤ d.chars.length := by
    intro s hs
    obtain ⟨edit, _, rfl⟩ := List.mem_map.mp hs
    exact d.splice_bounds edit
  have hordered := Splice.ordered_mergeSort hbounds hcompatible
  have hfold := Splice.foldr_apply hordered (Nat.zero_le _) fun s _ => Nat.zero_le s.start
  calc
    (d.applyEdits edits).1.chars = (d.splices edits).foldr Splice.apply d.chars := by
      rw [applyEdits, List.foldl_reverse]
    _ = Splice.atOnce d.chars (d.splices edits) := by
      rw [splices, hfold, List.take_zero, List.nil_append, Splice.atOnce_eq_standingFrom]
    _ = d.atOnce edits := Splice.atOnce_mergeSort (fun s hs => (hbounds s hs).1) hcompatible

theorem perm_spans_applyEdits (edits : List TextEdit) :
    (d.applyEdits edits).2.Perm (edits.map d.span) := by
  have hsorted := ((d.splices edits).reverse_perm.trans (Splice.mergeSort_perm _)).map
    fun s => (s.start, s.stop)
  rw [List.map_map] at hsorted
  exact hsorted

/-- The spans that are answered stand last one first. -/
theorem spans_applyEdits_descend (edits : List TextEdit) :
    (d.applyEdits edits).2.Pairwise fun a b => b.1 < a.1 ∨ b.1 = a.1 ∧ b.2 ≤ a.2 := by
  have hsorted := List.pairwise_mergeSort Splice.before_trans Splice.before_total
    (edits.map d.splice)
  refine List.pairwise_map.mpr (List.pairwise_reverse.mpr (hsorted.imp ?_))
  intro s t hbefore
  simpa only [Splice.before, Bool.or_eq_true, Bool.and_eq_true, decide_eq_true_eq] using hbefore

theorem version_applyEdits_eq (edits : List TextEdit) :
    (d.applyEdits edits).1.version = if edits = [] then d.version else bump d.version := by
  by_cases hedits : edits = []
  · subst hedits
    simp [applyEdits, splices]
  · rw [if_neg hedits, d.version_applyEdits hedits]

/-- What is applied depends on the batch only by the order in which edits of one place come. -/
theorem applyEdits_eq_of_filter_eq {other : List TextEdit}
    (hsame : ∀ place, other.filter (d.span · = place) = edits.filter (d.span · = place)) :
    d.applyEdits other = d.applyEdits edits := by
  have hsplices : d.splices other = d.splices edits := by
    apply mergeSort_eq_of_filter_key_eq (fun s : Splice => (s.start, s.stop))
      Splice.before_trans Splice.before_total
    · intro s t hst hts
      simp only [Splice.before, Bool.or_eq_true, Bool.and_eq_true, decide_eq_true_eq] at hst hts
      simp only [Prod.mk.injEq]
      omega
    · intro s t hkey
      simp only [Prod.mk.injEq] at hkey
      simp only [Splice.before, Bool.or_eq_true, Bool.and_eq_true, decide_eq_true_eq]
      omega
    · intro place
      rw [List.filter_map, List.filter_map]
      exact congrArg (List.map d.splice) (hsame place)
  rw [applyEdits, applyEdits, hsplices]

/-- Where no two edits have one place, their order in the batch means nothing. -/
theorem filter_span_eq_of_perm {other : List TextEdit} (hperm : other.Perm edits)
    (hdistinct : (edits.map d.span).Nodup) (place : Nat × Nat) :
    other.filter (d.span · = place) = edits.filter (d.span · = place) := by
  have hfilter := hperm.filter (d.span · = place)
  have hplace : ∀ edit ∈ edits.filter (d.span · = place), d.span edit = place := fun edit hedit =>
    of_decide_eq_true (List.mem_filter.mp hedit).2
  have hne : (edits.filter (d.span · = place)).Pairwise fun a b => d.span a ≠ d.span b :=
    (List.pairwise_map.mp hdistinct).filter _
  generalize edits.filter (d.span · = place) = chosen at *
  match chosen with
  | [] => exact List.perm_nil.mp hfilter
  | [edit] => exact List.perm_singleton.mp hfilter
  | a :: b :: rest =>
      have hab := (List.pairwise_cons.mp hne).1 b List.mem_cons_self
      have ha := hplace a List.mem_cons_self
      have hb := hplace b (List.mem_cons_of_mem a List.mem_cons_self)
      exact absurd (ha.trans hb.symm) hab

/-- What a batch of edits comes to that are all made at once. -/
structure Simultaneous (edits : List TextEdit) (after : Document) (spans : List (Nat × Nat)) :
    Prop where
  chars : after.chars = d.atOnce edits
  version : after.version = if edits = [] then d.version else bump d.version
  path : after.path = d.path
  language : after.language = d.language
  spans_perm : spans.Perm (edits.map d.span)
  spans_descend : spans.Pairwise fun a b => b.1 < a.1 ∨ b.1 = a.1 ∧ b.2 ≤ a.2
  /-- The batch may be reordered as long as the edits of each place keep their order. -/
  reordered : ∀ other : List TextEdit,
    (∀ place, other.filter (d.span · = place) = edits.filter (d.span · = place)) →
      d.applyEdits other = (after, spans)
  /-- If no two edits have one place, any order will do. -/
  permuted : (edits.map d.span).Nodup → ∀ other : List TextEdit, other.Perm edits →
    d.applyEdits other = (after, spans)

/-- A batch of edits that do not overlap is applied as if all of them were made at once. -/
theorem applyEdits_simultaneous (hcompatible : d.Compatible edits) :
    d.Simultaneous edits (d.applyEdits edits).1 (d.applyEdits edits).2 where
  chars := d.chars_applyEdits hcompatible
  version := d.version_applyEdits_eq edits
  path := rfl
  language := rfl
  spans_perm := d.perm_spans_applyEdits edits
  spans_descend := d.spans_applyEdits_descend edits
  reordered _ hsame := d.applyEdits_eq_of_filter_eq hsame
  permuted hdistinct _ hperm := d.applyEdits_eq_of_filter_eq (d.filter_span_eq_of_perm hperm hdistinct)

end QuickFix.Document

namespace QuickFix.BatchWitness

def document : Document := ⟨⟨"/a"⟩, "rust", 0, ['f', 'o', 'o', 'b', 'a', 'r', '\n']⟩

/-- Insertions between two replacements that touch, one of them given backwards. -/
def edits : List TextEdit := [
  .replace ⟨⟨0, 3⟩, ⟨0, 9⟩⟩ "q",
  .insert ⟨0, 3⟩ "1",
  .replace ⟨⟨0, 3⟩, ⟨0, 1⟩⟩ "x",
  .insert ⟨0, 3⟩ "2"]

theorem simultaneous_edits :
    document.Compatible edits ∧
      (document.applyEdits edits).1.chars = ['f', 'x', '1', '2', 'q', '\n'] ∧
      (document.applyEdits edits).1.version = 1 := by
  have hcompatible : document.Compatible edits := by
    rw [Document.compatible_iff]
    decide
  have hsimultaneous := document.applyEdits_simultaneous hcompatible
  refine ⟨hcompatible, ?_, ?_⟩
  · rw [hsimultaneous.chars]
    decide
  · rw [hsimultaneous.version]
    rfl

end QuickFix.BatchWitness
