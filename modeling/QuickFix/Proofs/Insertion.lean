import QuickFix.Action.Resolve
import QuickFix.Proofs.Batch
import QuickFix.Proofs.Occurrence

/-!
Batches of insertions between lines. They do not overlap, each leaves its text in the document in
one piece, and none cuts a text that stands on one line. The steps that insert make no other edits.
-/

namespace QuickFix

namespace Document

namespace Splice

variable {text : List Char} {batch : List Splice} {s : Splice} {offset : Nat}

theorem infix_flatMap {α β : Type} {a : α} {as : List α} (ha : a ∈ as) (f : α → List β) :
    f a <:+: as.flatMap f := by
  obtain ⟨front, behind, rfl⟩ := List.append_of_mem ha
  rw [List.flatMap_append, List.flatMap_cons]
  exact List.infix_append' _ _ _

/-- The text of each splice stands in one piece in the text that a batch leaves. -/
theorem newText_infix_atOnce (hs : s ∈ batch) (hlength : s.start ≤ text.length) :
    s.newText <:+: atOnce text batch := by
  have hstanding : s.newText <:+: standingAt text batch s.start := by
    by_cases hinsertion : s.IsInsertion
    · have hmem : s ∈ batch.filter fun t => t.IsInsertion ∧ t.start = s.start :=
        List.mem_filter.mpr ⟨hs, by simp [hinsertion]⟩
      rw [standingAt, List.append_assoc]
      exact (infix_flatMap hmem newText).trans (List.prefix_append _ _).isInfix
    · have hmem : s ∈ batch.filter fun t => ¬ t.IsInsertion ∧ t.start = s.start :=
        List.mem_filter.mpr ⟨hs, by simp [hinsertion]⟩
      exact (infix_flatMap hmem newText).trans (List.infix_append _ _ _)
  have hoffset : s.start ∈ List.range (text.length + 1) := by
    rw [List.mem_range]
    omega
  exact hstanding.trans (infix_flatMap hoffset _)

/-- An insertion that cuts no line. -/
structure BetweenLines (text : List Char) (s : Splice) : Prop where
  insertion : s.IsInsertion
  between : Text.Between text s.start

theorem BetweenLines.covers (hs : s.BetweenLines text) : ¬ s.Covers offset := by
  have hinsertion := hs.insertion
  simp only [IsInsertion, Covers] at *
  omega

theorem standingAt_of_betweenLines (hbatch : ∀ s ∈ batch, s.BetweenLines text) :
    standingAt text batch offset = insertedAt batch offset ++ text[offset]?.toList := by
  have hreplaced : batch.filter (fun s => ¬ s.IsInsertion ∧ s.start = offset) = [] := by
    rw [List.filter_eq_nil_iff]
    intro s hs
    simp [(hbatch s hs).insertion]
  have hcovers : batch.any (fun s => s.Covers offset) = false := by
    rw [List.any_eq_false]
    intro s hs
    simp [(hbatch s hs).covers]
  simp only [standingAt, replacedAt, hreplaced, keptAt, hcovers]
  simp

/-- A text without breaks is not cut by insertions between lines. -/
theorem infix_atOnce_of_betweenLines (hbatch : ∀ s ∈ batch, s.BetweenLines text)
    {word : List Char} (hword : ∀ c ∈ word, Text.isBreak c = false) (hpart : word <:+: text) :
    word <:+: atOnce text batch := by
  obtain ⟨front, behind, rfl⟩ := hpart
  cases word with
  | nil => exact List.nil_infix
  | cons c cs =>
      have hlength : front.length + 1 + cs.length ≤ (front ++ (c :: cs) ++ behind).length := by
        simp only [List.length_append, List.length_cons]
        omega
      have hget : ∀ i, i < cs.length + 1 →
          (front ++ (c :: cs) ++ behind)[front.length + i]? = (c :: cs)[i]? := by
        intro i hi
        rw [List.append_assoc, List.getElem?_append_right (Nat.le_add_right _ _),
          Nat.add_sub_cancel_left, List.getElem?_append_left (by simpa using hi)]
      have huntouched : ∀ offset, front.length + 1 ≤ offset →
          offset < front.length + 1 + cs.length → ∀ s ∈ batch, s.Untouched offset := by
        intro offset hfront hbehind s hs
        refine ⟨?_, (hbatch s hs).covers⟩
        rintro rfl
        rcases (hbatch s hs).between with hzero | hend | ⟨b, hb, hbreak⟩
        · omega
        · omega
        · have hplace : s.start - 1 = front.length + (s.start - 1 - front.length) := by omega
          rw [hplace, hget _ (by omega)] at hb
          have hunbroken := hword b (List.mem_of_getElem? hb)
          simp [hbreak] at hunbroken
      have hcs : ((front ++ (c :: cs) ++ behind).drop (front.length + 1)).take cs.length = cs := by
        simp
      have hc : (front ++ (c :: cs) ++ behind)[front.length]? = some c := hget 0 (Nat.succ_pos _)
      rw [atOnce_eq_standingFrom, standingFrom_split (Nat.zero_le front.length) (by omega),
        standingFrom_eq_cons (by omega), standingAt_of_betweenLines hbatch, hc,
        standingFrom_split (Nat.le_add_right (front.length + 1) cs.length) hlength,
        Nat.add_sub_cancel_left, flatMap_standingAt_of_untouched huntouched, hcs]
      generalize (List.range' 0 _).flatMap _ = before
      generalize standingFrom _ _ _ = after
      exact ⟨before ++ insertedAt batch front.length, after, by simp⟩

end Splice

end Document

/-- An insertion in front of a line. -/
def TextEdit.BeforeLine (edit : TextEdit) : Prop := ∃ line, edit.range = .caret ⟨line, 0⟩

namespace Document

variable {d : Document} {edit : TextEdit} {edits : List TextEdit}

theorem splice_betweenLines (hedit : edit.BeforeLine) : (d.splice edit).BetweenLines d.chars := by
  obtain ⟨line, hline⟩ := hedit
  have hsplice : d.splice edit =
      ⟨d.offsetAt ⟨line, 0⟩, d.offsetAt ⟨line, 0⟩, edit.newText.toList⟩ := by
    simp [splice, hline, Range.caret]
  rw [hsplice]
  exact ⟨rfl, Text.between_offsetAt d.chars line⟩

theorem betweenLines_of_mem_map (hedits : ∀ edit ∈ edits, edit.BeforeLine) :
    ∀ s ∈ edits.map d.splice, s.BetweenLines d.chars := by
  intro s hs
  obtain ⟨edit, hedit, rfl⟩ := List.mem_map.mp hs
  exact splice_betweenLines (hedits edit hedit)

theorem compatible_of_beforeLine (hedits : ∀ edit ∈ edits, edit.BeforeLine) :
    d.Compatible edits := by
  refine d.compatible_iff.mpr (List.pairwise_of_forall_mem_list ?_)
  intro a ha b hb
  have hainsertion := (splice_betweenLines (d := d) (hedits a ha)).insertion
  have hbinsertion := (splice_betweenLines (d := d) (hedits b hb)).insertion
  simp only [Splice.IsInsertion, span] at *
  omega

/-- Behind a batch of insertions the text of each of them stands in the document. -/
theorem newText_infix_applyEdits (hedits : ∀ edit ∈ edits, edit.BeforeLine)
    (hedit : edit ∈ edits) : edit.newText.toList <:+: (d.applyEdits edits).1.chars := by
  have hbounds := d.splice_bounds edit
  rw [d.chars_applyEdits (compatible_of_beforeLine hedits)]
  exact Splice.newText_infix_atOnce (List.mem_map_of_mem hedit) (Nat.le_trans hbounds.1 hbounds.2)

/-- What stands on one line of a document stands there behind a batch of insertions, too. -/
theorem infix_applyEdits (hedits : ∀ edit ∈ edits, edit.BeforeLine) {word : List Char}
    (hword : ∀ c ∈ word, Text.isBreak c = false) (hpart : word <:+: d.chars) :
    word <:+: (d.applyEdits edits).1.chars := by
  rw [d.chars_applyEdits (compatible_of_beforeLine hedits)]
  exact Splice.infix_atOnce_of_betweenLines (betweenLines_of_mem_map hedits) hword hpart

end Document

namespace StepContext

theorem insertion_beforeLine (d : Document) (line : Nat) (text : String) :
    (insertion d line text).BeforeLine := ⟨line, rfl⟩

theorem infix_newText_insertion (d : Document) (line : Nat) (text : String) :
    text.toList <:+: (insertion d line text).newText.toList := by
  simp only [insertion, TextEdit.insert]
  split
  · rw [String.toList_append]
    exact (List.suffix_append _ _).isInfix
  · exact List.infix_refl _

/-- An insertion makes an edit only if its text is not there yet. -/
theorem take_insert {ctx : StepContext} {d : Document} {step : EditStep} {anchor : Anchor}
    {locate : Option String} (hinsert : step.operation = .insert anchor locate) {made : TextEdit}
    (htake : ctx.take d step = .taken (some made)) :
    d.holdsLiteral (ctx.renderer.render step.text) = false ∧
      made = insertion d (ctx.insertionLine d anchor locate) (ctx.renderer.render step.text) := by
  simp only [take, hinsert, operate] at htake
  split at htake
  · cases htake
  · split at htake
    · cases htake
    · split at htake
      · cases htake
      · rename_i habsent
        simp only [StepOutcome.taken.injEq, Option.some.injEq] at htake
        exact ⟨by simpa using habsent, htake.symm⟩

end StepContext

end QuickFix
