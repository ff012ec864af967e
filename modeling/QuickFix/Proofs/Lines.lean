import Mathlib.Order.Monotone.Basic
import QuickFix.Text.Lines

/-!
Where lines start. A character in front of a text begins a line of its own if it ends one, and is on
the first line if it does not. From where a line starts its text stands in the whole text, so its
columns are offsets behind that start. An offset that a position has lies in the text, and in front
of the first column of a line stands the break of the line before, if anything stands there.
-/

namespace QuickFix.Text

section Cons

variable {c : Char} {rest : List Char}

theorem exists_of_not_endsLine (hbreak : isBreak c = true) (hends : endsLine c rest = false) :
    c = '\r' ∧ ∃ tail, rest = '\n' :: tail := by
  cases rest with
  | nil => simp [endsLine, hbreak] at hends
  | cons next tail => simpa [endsLine, hbreak] using hends

theorem isBreak_of_endsLine (hends : endsLine c rest = true) : isBreak c = true := by
  simp only [endsLine, Bool.and_eq_true] at hends
  exact hends.1

theorem rawLines_cons_of_endsLine (hends : endsLine c rest = true) :
    rawLines (c :: rest) = [c] :: rawLines rest := by
  rw [rawLines, if_pos hends]

theorem exists_rawLines_cons (hends : endsLine c rest = false) :
    ∃ first more, rawLines rest = first :: more ∧ rawLines (c :: rest) = (c :: first) :: more := by
  cases hlines : rawLines rest with
  | nil => exact absurd hlines (rawLines_ne_nil rest)
  | cons first more =>
      refine ⟨first, more, rfl, ?_⟩
      rw [rawLines, if_neg (by simp [hends]), hlines, consFirst]

theorem lineCount_cons (c : Char) (rest : List Char) :
    lineCount (c :: rest) = lineCount rest + if endsLine c rest then 1 else 0 := by
  cases hends : endsLine c rest with
  | true => simp [lineCount, rawLines_cons_of_endsLine hends]
  | false =>
      obtain ⟨first, more, hrest, hcons⟩ := exists_rawLines_cons hends
      simp [lineCount, hrest, hcons]

/-- The line that a later line is once the first character is dropped. -/
theorem lineStart_cons_succ (c : Char) (rest : List Char) (line : Nat) :
    lineStart (c :: rest) (line + 1) =
      lineStart rest (if endsLine c rest then line else line + 1) + 1 := by
  cases hends : endsLine c rest with
  | true => simp [lineStart, rawLines_cons_of_endsLine hends, Nat.add_comm]
  | false =>
      obtain ⟨first, more, hrest, hcons⟩ := exists_rawLines_cons hends
      simp only [lineStart, hrest, hcons, Bool.false_eq_true, ↓reduceIte, List.take_succ_cons,
        List.flatten_cons, List.length_append, List.length_cons]
      omega

theorem line?_cons_succ (c : Char) (rest : List Char) (line : Nat) :
    line? (c :: rest) (line + 1) = line? rest (if endsLine c rest then line else line + 1) := by
  cases hends : endsLine c rest with
  | true => simp [line?, lines, rawLines_cons_of_endsLine hends]
  | false =>
      obtain ⟨first, more, hrest, hcons⟩ := exists_rawLines_cons hends
      simp [line?, lines, hrest, hcons]

theorem dropLastIf_cons {b : Char} (hc : c ≠ b) (line : List Char) :
    dropLastIf b (c :: line) = c :: dropLastIf b line := by
  cases line with
  | nil => simp [dropLastIf, hc]
  | cons first more =>
      unfold dropLastIf
      simp only [List.getLast?_cons_cons, List.dropLast_cons_cons]
      split <;> rfl

theorem trimEnd_cons (hlf : c ≠ '\n') (hcr : c ≠ '\r') (line : List Char) :
    trimEnd (c :: line) = c :: trimEnd line := by
  rw [trimEnd, dropLastIf_cons hlf, dropLastIf_cons hcr, trimEnd]

/-- A line that begins with its end has no text. -/
theorem line?_cons_zero_of_lf_or_cr (hc : c = '\n' ∨ c = '\r') (rest : List Char) :
    line? (c :: rest) 0 = some [] := by
  have hbreak : isBreak c = true := by rcases hc with rfl | rfl <;> decide
  cases hends : endsLine c rest with
  | true =>
      have htrim : trimEnd [c] = [] := by rcases hc with rfl | rfl <;> decide
      simp [line?, lines, rawLines_cons_of_endsLine hends, htrim]
  | false =>
      obtain ⟨rfl, tail, rfl⟩ := exists_of_not_endsLine hbreak hends
      obtain ⟨first, more, hrest, hcons⟩ := exists_rawLines_cons hends
      rw [rawLines_cons_of_endsLine rfl] at hrest
      obtain ⟨rfl, _⟩ := List.cons.inj hrest
      have htrim : trimEnd ['\r', '\n'] = [] := by decide
      simp [line?, lines, hcons, htrim]

/-- Any other character is in the text of the first line, and so is what follows up to the first
line end. -/
theorem line?_cons_zero (hlf : c ≠ '\n') (hcr : c ≠ '\r') (rest : List Char) :
    line? (c :: rest) 0 =
      some (c :: if isBreak c then [] else (line? rest 0).getD []) := by
  cases hends : endsLine c rest with
  | true =>
      have hnil : trimEnd ([] : List Char) = [] := rfl
      simp [line?, lines, rawLines_cons_of_endsLine hends, trimEnd_cons hlf hcr, hnil,
        isBreak_of_endsLine hends]
  | false =>
      obtain ⟨first, more, hrest, hcons⟩ := exists_rawLines_cons hends
      have hbreak : isBreak c = false := by
        refine Bool.eq_false_iff.mpr fun hbreak => ?_
        exact hcr (exists_of_not_endsLine hbreak hends).1
      simp [line?, lines, hrest, hcons, trimEnd_cons hlf hcr, hbreak]

end Cons

/-- Every line but the last has a break at its end. -/
theorem isBreak_of_mem_dropLast_rawLines {text line : List Char}
    (hline : line ∈ (rawLines text).dropLast) :
    ∃ c, line.getLast? = some c ∧ isBreak c = true := by
  induction text generalizing line with
  | nil => simp [rawLines] at hline
  | cons c rest ih =>
      cases hends : endsLine c rest with
      | true =>
          rw [rawLines_cons_of_endsLine hends,
            List.dropLast_cons_of_ne_nil (rawLines_ne_nil rest)] at hline
          rcases List.mem_cons.mp hline with rfl | hmem
          · exact ⟨c, rfl, isBreak_of_endsLine hends⟩
          · exact ih hmem
      | false =>
          obtain ⟨first, more, hrest, hcons⟩ := exists_rawLines_cons hends
          rw [hcons] at hline
          rw [hrest] at ih
          cases more with
          | nil => simp at hline
          | cons second more =>
              simp only [List.dropLast_cons_cons] at hline ih
              rcases List.mem_cons.mp hline with rfl | hmem
              · obtain ⟨b, hlast, hbreak⟩ := ih List.mem_cons_self
                exact ⟨b, by simp [List.getLast?_cons, hlast], hbreak⟩
              · exact ih (List.mem_cons_of_mem first hmem)

theorem exists_line? {text : List Char} {line : Nat} (hline : line < lineCount text) :
    ∃ content, line? text line = some content :=
  ⟨_, List.getElem?_eq_getElem (length_lines text ▸ hline)⟩

theorem lt_lineCount_of_line? {text content : List Char} {line : Nat}
    (hline : line? text line = some content) : line < lineCount text :=
  length_lines text ▸ (List.getElem?_eq_some_iff.mp hline).1

theorem lineLength_eq (text : List Char) (line : Nat) :
    lineLength text line = ((line? text line).getD []).length := by
  rw [lineLength]
  cases line? text line <;> rfl

/-- What stands before a line is the lines before it. -/
theorem take_lineStart (text : List Char) (line : Nat) :
    text.take (lineStart text line) = ((rawLines text).take line).flatten := by
  have hsplit : ((rawLines text).take line).flatten ++ ((rawLines text).drop line).flatten =
      text := by
    rw [← List.flatten_append, List.take_append_drop, flatten_rawLines]
  have htake : (((rawLines text).take line).flatten ++ ((rawLines text).drop line).flatten).take
      (lineStart text line) = ((rawLines text).take line).flatten := List.take_left
  rwa [hsplit] at htake

theorem dropLastIf_prefix_self (c : Char) (line : List Char) : dropLastIf c line <+: line := by
  unfold dropLastIf
  split
  · exact List.dropLast_prefix line
  · exact List.prefix_refl line

theorem trimEnd_prefix_self (line : List Char) : trimEnd line <+: line :=
  (dropLastIf_prefix_self '\r' _).trans (dropLastIf_prefix_self '\n' line)

theorem length_trimEnd_le (line : List Char) : (trimEnd line).length ≤ line.length :=
  (trimEnd_prefix_self line).length_le

theorem lineStart_zero (text : List Char) : lineStart text 0 = 0 := rfl

theorem lineStart_le_length (text : List Char) (line : Nat) :
    lineStart text line ≤ text.length := by
  have hstart : (text.take (lineStart text line)).length = lineStart text line := by
    rw [take_lineStart, lineStart]
  rw [List.length_take] at hstart
  omega

theorem lineStart_succ {text : List Char} {line : Nat} (hline : line < (rawLines text).length) :
    lineStart text (line + 1) = lineStart text line + (rawLines text)[line].length := by
  rw [lineStart, List.take_succ_eq_append_getElem hline, List.flatten_append, List.length_append,
    List.flatten_singleton, lineStart]

theorem lineStart_le_succ (text : List Char) (line : Nat) :
    lineStart text line ≤ lineStart text (line + 1) := by
  by_cases hline : line < (rawLines text).length
  · rw [lineStart_succ hline]
    exact Nat.le_add_right _ _
  · have hline := Nat.le_of_not_lt hline
    rw [lineStart, lineStart, List.take_of_length_le hline,
      List.take_of_length_le (Nat.le_succ_of_le hline)]

/-- Lines start one behind the other. -/
theorem lineStart_le_lineStart (text : List Char) {line later : Nat} (hle : line ≤ later) :
    lineStart text line ≤ lineStart text later :=
  monotone_nat_of_le_succ (lineStart_le_succ text) hle

/-- The text of a line ends where the next line starts or before. -/
theorem lineStart_add_lineLength_le_succ {text : List Char} {line : Nat}
    (hline : line < lineCount text) :
    lineStart text line + lineLength text line ≤ lineStart text (line + 1) := by
  have hline : line < (rawLines text).length := hline
  have hlength : lineLength text line ≤ (rawLines text)[line].length := by
    simp only [lineLength, line?, lines, List.getElem?_map]
    rw [List.getElem?_eq_getElem hline]
    exact length_trimEnd_le _
  rw [lineStart_succ hline]
  exact Nat.add_le_add_left hlength _

theorem lineStart_add_lineLength_le {text : List Char} {line : Nat}
    (hline : line < lineCount text) :
    lineStart text line + lineLength text line ≤ text.length :=
  Nat.le_trans (lineStart_add_lineLength_le_succ hline) (lineStart_le_length text (line + 1))

/-- Every position has an offset in the text. -/
theorem offsetAt_le (text : List Char) (position : Position) :
    offsetAt text position ≤ text.length := by
  unfold offsetAt
  split
  · rename_i hline
    have := lineStart_add_lineLength_le hline
    omega
  · exact Nat.le_refl _

/-- A position that comes before another has no larger an offset. -/
theorem offsetAt_le_offsetAt (text : List Char) {p q : Position} (hle : p ≤ q) :
    offsetAt text p ≤ offsetAt text q := by
  by_cases hq : q.line < lineCount text
  · rw [offsetAt.eq_def text q, if_pos hq]
    rcases hle with hbefore | ⟨hline, hcolumn⟩
    · have hp : p.line < lineCount text := Nat.lt_trans hbefore hq
      have hend := lineStart_add_lineLength_le_succ hp
      have hnext : lineStart text (p.line + 1) ≤ lineStart text q.line :=
        lineStart_le_lineStart text hbefore
      rw [offsetAt, if_pos hp]
      omega
    · rw [offsetAt, hline, if_pos hq]
      omega
  · rw [offsetAt.eq_def text q, if_neg hq]
    exact offsetAt_le text p

/-- The text of a line stands in the text from where the line starts. -/
theorem line_prefix_drop_lineStart {text line : List Char} {n : Nat}
    (hline : line? text n = some line) : line <+: text.drop (lineStart text n) := by
  rw [line?, lines, List.getElem?_map] at hline
  obtain ⟨raw, hraw, rfl⟩ := Option.map_eq_some_iff.mp hline
  obtain ⟨hn, rfl⟩ := List.getElem?_eq_some_iff.mp hraw
  have hsplit : ((rawLines text).take n).flatten ++ ((rawLines text).drop n).flatten = text := by
    rw [← List.flatten_append, List.take_append_drop, flatten_rawLines]
  have hdrop : text.drop (lineStart text n) = ((rawLines text).drop n).flatten :=
    (congrArg _ hsplit.symm).trans List.drop_left
  rw [hdrop, List.drop_eq_getElem_cons hn, List.flatten_cons]
  exact (trimEnd_prefix_self _).trans (List.prefix_append _ _)

/-- A column of a line lies that far behind where the line starts. -/
theorem offsetAt_of_line? {text line : List Char} {n column : Nat}
    (hline : line? text n = some line) (hcolumn : column ≤ line.length) :
    offsetAt text ⟨n, column⟩ = lineStart text n + column := by
  have hn : n < lineCount text := lt_lineCount_of_line? hline
  simp only [offsetAt, hn, ↓reduceIte, lineLength, hline, Nat.min_eq_left hcolumn]

theorem lineStart_of_le {text : List Char} {line : Nat} (hline : lineCount text ≤ line) :
    lineStart text line = text.length := by
  rw [lineStart, List.take_of_length_le hline, flatten_rawLines]

/-- The first column of a line is where the line starts, also for lines past the end. -/
theorem offsetAt_column_zero (text : List Char) (line : Nat) :
    offsetAt text ⟨line, 0⟩ = lineStart text line := by
  unfold offsetAt
  split
  · rw [Nat.zero_min, Nat.add_zero]
  · rename_i hline
    exact (lineStart_of_le (Nat.le_of_not_lt hline)).symm

/-- Whether no line is cut at an offset: it is one of the ends of the text, or a break stands right
before it. -/
def Between (text : List Char) (offset : Nat) : Prop :=
  offset = 0 ∨ offset = text.length ∨ ∃ c, text[offset - 1]? = some c ∧ isBreak c = true

/-- The first column of a line does not cut one. -/
theorem between_offsetAt (text : List Char) (line : Nat) :
    Between text (offsetAt text ⟨line, 0⟩) := by
  by_cases hline : line < lineCount text
  · have hoffset : offsetAt text ⟨line, 0⟩ = lineStart text line := by
      simp [offsetAt, hline]
    rw [hoffset]
    cases line with
    | zero => exact .inl (by simp [lineStart])
    | succ before =>
        have hbefore : before < (rawLines text).length := Nat.lt_of_succ_lt hline
        have hlast : before < (rawLines text).dropLast.length := by
          rw [List.length_dropLast]
          exact Nat.lt_sub_of_add_lt hline
        have hmem : (rawLines text)[before] ∈ (rawLines text).dropLast := by
          rw [← List.getElem_dropLast hlast]
          exact List.getElem_mem hlast
        obtain ⟨c, hend, hbreak⟩ := isBreak_of_mem_dropLast_rawLines hmem
        have htake : (text.take (lineStart text (before + 1))).getLast? = some c := by
          rw [take_lineStart, List.take_succ_eq_append_getElem hbefore, List.flatten_append,
            List.flatten_singleton, List.getLast?_append, hend, Option.some_or]
        have hin := lineStart_add_lineLength_le hline
        rw [List.getLast?_eq_getElem?, List.getElem?_take, List.length_take] at htake
        rw [Nat.min_eq_left (by omega)] at htake
        split at htake
        · exact .inr (.inr ⟨c, htake, hbreak⟩)
        · cases htake
  · right; left
    simp [offsetAt, hline]

end QuickFix.Text
