import QuickFix.Proofs.Replacement

/-!
Edits of empty ranges. A range counts as empty if it does not end behind its start, so its ends may
stand in the wrong order, while applying an edit puts them in order and takes away what stands
between them. So such an edit alone keeps every character if and only if its two ends mean one
offset; a caret does, and so do two ends past the last line.
-/

namespace QuickFix

theorem TextEdit.isInsert_iff {edit : TextEdit} :
    edit.isInsert = true ↔ edit.range.stop ≤ edit.range.start :=
  decide_eq_true_iff

namespace Document

variable {d : Document} {edit : TextEdit}

/-- Whether an edit alone puts its text at some offset and leaves all else as it is. -/
def OnlyInserts (d : Document) (edit : TextEdit) : Prop :=
  ∃ offset ≤ d.chars.length, (d.applyEdits [edit]).1.chars =
    d.chars.take offset ++ edit.newText.toList ++ d.chars.drop offset

/-- The offsets of a range that counts as empty do not ascend either. -/
theorem offsetAt_stop_le_start (hinsert : edit.isInsert = true) :
    d.offsetAt edit.range.stop ≤ d.offsetAt edit.range.start :=
  Text.offsetAt_le_offsetAt d.chars (TextEdit.isInsert_iff.mp hinsert)

/-- The text of the edit stands where the characters between the end and the start of its range
stood. -/
theorem chars_applyEdits_of_isInsert (hinsert : edit.isInsert = true) :
    (d.applyEdits [edit]).1.chars = d.chars.take (d.offsetAt edit.range.stop) ++
      edit.newText.toList ++ d.chars.drop (d.offsetAt edit.range.start) := by
  have hle : d.offsetAt edit.range.stop ≤ d.offsetAt edit.range.start :=
    offsetAt_stop_le_start hinsert
  rw [chars_applyEdits_singleton]
  simp only [splice, Nat.min_eq_right hle, Nat.max_eq_left hle]

theorem take_between_drop {start stop : Nat} (hle : start ≤ stop) :
    d.chars.take start ++ d.between start stop ++ d.chars.drop stop = d.chars := by
  have hstop : stop = start + (stop - start) := (Nat.add_sub_cancel' hle).symm
  have hbehind : d.chars.drop stop = (d.chars.drop start).drop (stop - start) := by
    rw [List.drop_drop, ← hstop]
  rw [between, hbehind, List.append_assoc, List.take_append_drop, List.take_append_drop]

/-- A text is put at one offset if and only if nothing stood between the two ends: otherwise there
are too few characters left. -/
theorem onlyInserts_iff (hinsert : edit.isInsert = true) :
    d.OnlyInserts edit ↔ d.offsetAt edit.range.start = d.offsetAt edit.range.stop := by
  have hchars := chars_applyEdits_of_isInsert (d := d) hinsert
  constructor
  · rintro ⟨offset, hoffset, honly⟩
    have hle : d.offsetAt edit.range.stop ≤ d.offsetAt edit.range.start :=
      offsetAt_stop_le_start hinsert
    have hbound : d.offsetAt edit.range.start ≤ d.chars.length := Text.offsetAt_le _ _
    rw [hchars] at honly
    have hlength := congrArg List.length honly
    simp only [List.length_append, List.length_take, List.length_drop] at hlength
    omega
  · intro heq
    refine ⟨d.offsetAt edit.range.stop, Text.offsetAt_le _ _, ?_⟩
    rw [hchars, heq]

theorem offsetAt_of_lineCount_le {position : Position} (hline : d.lineCount ≤ position.line) :
    d.offsetAt position = d.chars.length :=
  if_neg (Nat.not_lt.mpr hline)

/-- What it is for an edit of an empty range to be applied to a document alone. -/
structure TakesBetween (d : Document) (edit : TextEdit) : Prop where
  /-- The offset of the end does not come behind that of the start, and both are in the text. -/
  stop_le : d.offsetAt edit.range.stop ≤ d.offsetAt edit.range.start
  start_le : d.offsetAt edit.range.start ≤ d.chars.length
  /-- The characters between the end and the start are taken away, and the text stands in their
  place. -/
  before : d.chars = d.chars.take (d.offsetAt edit.range.stop) ++
    d.between (d.offsetAt edit.range.stop) (d.offsetAt edit.range.start) ++
      d.chars.drop (d.offsetAt edit.range.start)
  after : (d.applyEdits [edit]).1.chars = d.chars.take (d.offsetAt edit.range.stop) ++
    edit.newText.toList ++ d.chars.drop (d.offsetAt edit.range.start)
  /-- So no character is lost if and only if both ends mean one offset. -/
  onlyInserts_iff : d.OnlyInserts edit ↔
    d.offsetAt edit.range.start = d.offsetAt edit.range.stop
  /-- That is so for a caret, wherever it is. -/
  caret : edit.range.start = edit.range.stop → d.OnlyInserts edit
  /-- It is so past the last line as well. -/
  outside : d.lineCount ≤ edit.range.stop.line → d.OnlyInserts edit

/-- What counts as an insertion takes away just the characters between its end and its start. -/
theorem takesBetween_of_isInsert (d : Document) {edit : TextEdit} (hinsert : edit.isInsert = true) :
    d.TakesBetween edit where
  stop_le := offsetAt_stop_le_start hinsert
  start_le := Text.offsetAt_le _ _
  before := (take_between_drop (offsetAt_stop_le_start hinsert)).symm
  after := chars_applyEdits_of_isInsert hinsert
  onlyInserts_iff := Document.onlyInserts_iff hinsert
  caret heq := by
    apply (Document.onlyInserts_iff hinsert).mpr
    rw [heq]
  outside hstop := by
    have hstart : d.lineCount ≤ edit.range.start.line := by
      rcases TextEdit.isInsert_iff.mp hinsert with hline | ⟨hline, _⟩
      · exact Nat.le_trans hstop (Nat.le_of_lt hline)
      · exact hline ▸ hstop
    apply (Document.onlyInserts_iff hinsert).mpr
    rw [offsetAt_of_lineCount_le hstart, offsetAt_of_lineCount_le hstop]

end Document

namespace EmptyRangeWitness

def document : Document := .ofText ⟨"/w/a.rs"⟩ "rust" "ab"

/-- The start of the range stands behind its end. -/
def backwards : TextEdit := .replace ⟨⟨0, 1⟩, ⟨0, 0⟩⟩ ""

/-- Both ends stand past the end of the line, in the wrong order. -/
def clamped : TextEdit := .replace ⟨⟨0, 9⟩, ⟨0, 7⟩⟩ "c"

theorem onlyInserts_clamped :
    clamped.isInsert = true ∧ document.OnlyInserts clamped ∧
      (document.applyEdits [clamped]).1.chars = ['a', 'b', 'c'] := by
  have hinsert : clamped.isInsert = true := by decide
  have hbetween := document.takesBetween_of_isInsert hinsert
  exact ⟨hinsert, hbetween.onlyInserts_iff.mpr (by decide), hbetween.after.trans (by decide)⟩

/-- A range that is written backwards counts as empty, and yet its edit takes a character away. -/
theorem not_onlyInserts_backwards :
    backwards.isInsert = true ∧ ¬ document.OnlyInserts backwards ∧
      (document.applyEdits [backwards]).1.chars = ['b'] := by
  have hinsert : backwards.isInsert = true := by decide
  have hoffsets : document.offsetAt ⟨0, 1⟩ ≠ document.offsetAt ⟨0, 0⟩ := by decide
  refine ⟨hinsert, fun honly => hoffsets ((Document.onlyInserts_iff hinsert).mp honly), ?_⟩
  exact (Document.chars_applyEdits_of_isInsert hinsert).trans (by decide)

end EmptyRangeWitness

end QuickFix
