import QuickFix.Proofs.Lines

/-!
Offsets and positions. The line of an offset is the number of lines that end in front of it, so
later offsets have later positions. The position of an offset means that offset again, except
between the CR and the LF of one line end, where it means the end of the line. The other way around
a position has an offset of its own, except behind a break that stays in the text of its line: there
it shares its offset with the start of the next line, and that is where the offset leads back to.
-/

namespace QuickFix

namespace Text

variable {c : Char} {text rest content : List Char} {line column offset : Nat}

/-- The number of lines that end in front of an offset. -/
def endsBefore : List Char → Nat → Nat
  | [], _ => 0
  | _ :: _, 0 => 0
  | c :: rest, offset + 1 => endsBefore rest offset + if endsLine c rest then 1 else 0

theorem endsBefore_zero (text : List Char) : endsBefore text 0 = 0 := by
  cases text <;> rfl

theorem endsBefore_mono (text : List Char) : Monotone (endsBefore text) := by
  apply monotone_nat_of_le_succ
  intro offset
  induction text generalizing offset with
  | nil => exact Nat.le_refl _
  | cons c rest ih =>
      cases offset with
      | zero => exact Nat.zero_le _
      | succ offset => exact Nat.add_le_add_right (ih offset) _

theorem endsBefore_of_length_le (hoffset : text.length ≤ offset) :
    endsBefore text offset = endsBefore text text.length := by
  induction text generalizing offset with
  | nil => rfl
  | cons c rest ih =>
      obtain ⟨more, rfl⟩ := Nat.exists_eq_add_of_le' hoffset
      have hrest : endsBefore rest (more + rest.length) = endsBefore rest rest.length :=
        ih (Nat.le_add_left _ _)
      exact congrArg (· + if endsLine c rest then 1 else 0) hrest

/-- A text has one line more than lines end in it. -/
theorem lineCount_eq (text : List Char) : lineCount text = endsBefore text text.length + 1 := by
  induction text with
  | nil => rfl
  | cons c rest ih =>
      rw [lineCount_cons, ih, List.length_cons, endsBefore, Nat.add_right_comm]

theorem lineAt_zero (text : List Char) : lineAt text 0 = 0 := by
  rw [lineAt, Nat.zero_min]
  cases text with
  | nil => rfl
  | cons c rest =>
      cases hends : endsLine c rest with
      | true =>
          rw [rawLines_cons_of_endsLine hends]
          cases rawLines rest <;> rfl
      | false =>
          obtain ⟨first, more, _, hcons⟩ := exists_rawLines_cons hends
          rw [hcons]
          cases more <;> rfl

theorem lineAt_cons_succ (c : Char) (rest : List Char) (offset : Nat) :
    lineAt (c :: rest) (offset + 1) =
      lineAt rest offset + if endsLine c rest then 1 else 0 := by
  have hmin : min (offset + 1) (c :: rest).length = min offset rest.length + 1 :=
    Nat.add_min_add_right offset rest.length 1
  rw [lineAt, hmin, lineAt]
  cases hends : endsLine c rest with
  | true =>
      rw [rawLines_cons_of_endsLine hends]
      cases hrest : rawLines rest with
      | nil => exact absurd hrest (rawLines_ne_nil rest)
      | cons first more => simp [lineHolding]
  | false =>
      obtain ⟨first, more, hrest, hcons⟩ := exists_rawLines_cons hends
      rw [hcons, hrest]
      cases more <;> simp [lineHolding]

/-- The line of an offset is the number of lines that end in front of it. -/
theorem lineAt_eq_endsBefore (text : List Char) (offset : Nat) :
    lineAt text offset = endsBefore text offset := by
  induction text generalizing offset with
  | nil => rfl
  | cons c rest ih =>
      cases offset with
      | zero => rw [lineAt_zero, endsBefore_zero]
      | succ offset => rw [lineAt_cons_succ, ih, endsBefore]

theorem lineAt_mono (text : List Char) : Monotone (lineAt text) := by
  intro offset later hle
  rw [lineAt_eq_endsBefore, lineAt_eq_endsBefore]
  exact endsBefore_mono text hle

theorem lineAt_lt_lineCount (text : List Char) (offset : Nat) :
    lineAt text offset < lineCount text := by
  rw [lineAt_eq_endsBefore, lineCount_eq, Nat.lt_succ_iff]
  rcases Nat.le_total offset text.length with hin | hpast
  · exact endsBefore_mono text hin
  · exact Nat.le_of_eq (endsBefore_of_length_le hpast)

/-- A later offset has no earlier a position. -/
theorem positionAt_le_positionAt (text : List Char) {later : Nat} (hle : offset ≤ later) :
    positionAt text offset ≤ positionAt text later := by
  rcases Nat.lt_or_eq_of_le (lineAt_mono text hle) with hlt | heq
  · exact .inl hlt
  · refine .inr ⟨heq, ?_⟩
    simp only [positionAt, heq]
    omega

theorem offsetAt_cons_succ (c : Char) (rest : List Char) (line column : Nat) :
    offsetAt (c :: rest) ⟨line + 1, column⟩ =
      offsetAt rest ⟨if endsLine c rest then line else line + 1, column⟩ + 1 := by
  simp only [offsetAt, lineCount_cons, lineStart_cons_succ, lineLength_eq, line?_cons_succ]
  cases endsLine c rest <;> simp <;> split <;> omega

theorem lineAt_of_cons_succ (hline : lineAt (c :: rest) (offset + 1) = line + 1) :
    lineAt rest offset = if endsLine c rest then line else line + 1 := by
  rw [lineAt_cons_succ] at hline
  cases hends : endsLine c rest with
  | true => simpa [hends] using hline
  | false => simpa [hends] using hline

/-- Behind the first line, dropping the first character of a text changes no column. -/
theorem positionAt_cons_succ (hline : lineAt (c :: rest) (offset + 1) = line + 1) :
    positionAt (c :: rest) (offset + 1) = ⟨line + 1, (positionAt rest offset).column⟩ := by
  simp only [positionAt, hline, lineStart_cons_succ, lineLength_eq, line?_cons_succ,
    ← lineAt_of_cons_succ hline, List.length_cons]
  congr 2
  omega

theorem positionAt_of_lineAt_eq_zero (hline : lineAt text offset = 0) :
    positionAt text offset = ⟨0, min (min offset text.length) (lineLength text 0)⟩ := by
  rw [positionAt, hline, lineStart_zero, Nat.sub_zero]

theorem positionAt_zero (text : List Char) : positionAt text 0 = ⟨0, 0⟩ := by
  rw [positionAt_of_lineAt_eq_zero (lineAt_zero text), Nat.zero_min, Nat.zero_min]

theorem offsetAt_line_zero (text : List Char) (column : Nat) :
    offsetAt text ⟨0, column⟩ = min column (lineLength text 0) := by
  have hcount : 0 < lineCount text := Nat.zero_lt_of_lt (lineAt_lt_lineCount text 0)
  rw [offsetAt, if_pos hcount, lineStart_zero, Nat.zero_add]

/-- Whether an offset lies between the CR and the LF of one line end. -/
def SplitsLineEnd (text : List Char) (offset : Nat) : Prop :=
  0 < offset ∧ text[offset - 1]? = some '\r' ∧ text[offset]? = some '\n'

instance (text : List Char) (offset : Nat) : Decidable (SplitsLineEnd text offset) :=
  inferInstanceAs (Decidable (_ ∧ _ ∧ _))

theorem not_splitsLineEnd_zero (text : List Char) : ¬ SplitsLineEnd text 0 :=
  fun hsplits => Nat.lt_irrefl 0 hsplits.1

theorem splitsLineEnd_cons_succ (hc : offset = 0 → ¬ (c = '\r' ∧ rest.head? = some '\n')) :
    SplitsLineEnd (c :: rest) (offset + 1) ↔ SplitsLineEnd rest offset := by
  cases offset with
  | zero =>
      refine iff_of_false (fun hsplits => hc rfl ?_) (not_splitsLineEnd_zero rest)
      obtain ⟨_, hcr, hlf⟩ := hsplits
      exact ⟨by simpa using hcr, by simpa [List.head?_eq_getElem?] using hlf⟩
  | succ offset => simp [SplitsLineEnd]

theorem isBreak_eq_false (hends : endsLine c rest = false)
    (hc : ¬ (c = '\r' ∧ rest.head? = some '\n')) : isBreak c = false := by
  refine Bool.eq_false_iff.mpr fun hbreak => hc ?_
  obtain ⟨hcr, tail, rfl⟩ := exists_of_not_endsLine hbreak hends
  exact ⟨hcr, rfl⟩

theorem ne_of_isBreak_eq_false (hc : isBreak c = false) : c ≠ '\n' ∧ c ≠ '\r' := by
  constructor <;> rintro rfl <;> exact absurd hc (by decide)

/-- A character that ends no line makes the first line longer by one. -/
theorem lineLength_cons_zero (hc : isBreak c = false) (rest : List Char) :
    lineLength (c :: rest) 0 = lineLength rest 0 + 1 := by
  obtain ⟨hlf, hcr⟩ := ne_of_isBreak_eq_false hc
  rw [lineLength_eq, line?_cons_zero hlf hcr, lineLength_eq, hc]
  rfl

/-- Between CR and LF stands the end of the line. -/
theorem offsetAt_positionAt_one (tail : List Char) :
    offsetAt ('\r' :: '\n' :: tail) (positionAt ('\r' :: '\n' :: tail) 1) = 0 := by
  have hline : lineAt ('\r' :: '\n' :: tail) 1 = 0 := by
    rw [lineAt_cons_succ, lineAt_zero]
    rfl
  have hlength : lineLength ('\r' :: '\n' :: tail) 0 = 0 := by
    rw [lineLength_eq, line?_cons_zero_of_lf_or_cr (.inr rfl)]
    rfl
  rw [positionAt_of_lineAt_eq_zero hline, offsetAt_line_zero, hlength, Nat.min_zero]

/-- Everywhere else a character in front moves what the position means by one. -/
theorem offsetAt_positionAt_cons_succ (hoffset : offset ≤ rest.length)
    (hc : offset = 0 → ¬ (c = '\r' ∧ rest.head? = some '\n')) :
    offsetAt (c :: rest) (positionAt (c :: rest) (offset + 1)) =
      offsetAt rest (positionAt rest offset) + 1 := by
  cases hline : lineAt (c :: rest) (offset + 1) with
  | succ line =>
      rw [positionAt_cons_succ hline, offsetAt_cons_succ, ← lineAt_of_cons_succ hline]
      rfl
  | zero =>
      rw [lineAt_cons_succ] at hline
      obtain ⟨hzero, hends⟩ := Nat.add_eq_zero_iff.mp hline
      have hends : endsLine c rest = false := by simpa using hends
      have hbreak : isBreak c = false := by
        refine isBreak_eq_false hends fun ⟨hcr, hlf⟩ => ?_
        obtain ⟨tail, rfl⟩ := List.head?_eq_some_iff.mp hlf
        cases offset with
        | zero => exact hc rfl ⟨hcr, hlf⟩
        | succ offset =>
            have hpast : lineAt ('\n' :: tail) (offset + 1) = lineAt tail offset + 1 :=
              lineAt_cons_succ '\n' tail offset
            omega
      rw [positionAt_of_lineAt_eq_zero (lineAt_cons_succ c rest offset ▸ hline),
        positionAt_of_lineAt_eq_zero hzero, offsetAt_line_zero, offsetAt_line_zero,
        lineLength_cons_zero hbreak, List.length_cons]
      omega

/-- The position of an offset means that offset, or the one before if it splits a line end. -/
theorem offsetAt_positionAt (hoffset : offset ≤ text.length) :
    offsetAt text (positionAt text offset) =
      if SplitsLineEnd text offset then offset - 1 else offset := by
  induction text generalizing offset with
  | nil =>
      obtain rfl := Nat.le_zero.mp hoffset
      rfl
  | cons c rest ih =>
      cases offset with
      | zero => simp [positionAt_zero, offsetAt_column_zero, lineStart_zero]
      | succ offset =>
          by_cases hcrlf : offset = 0 ∧ c = '\r' ∧ rest.head? = some '\n'
          · obtain ⟨rfl, rfl, hlf⟩ := hcrlf
            obtain ⟨tail, rfl⟩ := List.head?_eq_some_iff.mp hlf
            exact offsetAt_positionAt_one tail
          · have hc : offset = 0 → ¬ (c = '\r' ∧ rest.head? = some '\n') :=
              fun hzero hboth => hcrlf ⟨hzero, hboth⟩
            have hin : offset ≤ rest.length := Nat.le_of_succ_le_succ hoffset
            rw [offsetAt_positionAt_cons_succ hin hc, ih hin]
            by_cases hsplits : SplitsLineEnd rest offset
            · have hpos : 0 < offset := hsplits.1
              rw [if_pos hsplits, if_pos ((splitsLineEnd_cons_succ hc).mpr hsplits)]
              omega
            · rw [if_neg hsplits, if_neg fun h => hsplits ((splitsLineEnd_cons_succ hc).mp h)]

theorem positionAt_min (text : List Char) (offset : Nat) :
    positionAt text (min offset text.length) = positionAt text offset := by
  simp only [positionAt, lineAt, Nat.min_assoc, Nat.min_self]

/-- How offsets and positions of a text convert into each other. -/
structure Projects (text : List Char) : Prop where
  lineCount_eq : lineCount text = endsBefore text text.length + 1
  line_eq : ∀ offset, (positionAt text offset).line = endsBefore text offset
  line_lt : ∀ offset, (positionAt text offset).line < lineCount text
  column_le : ∀ offset,
    (positionAt text offset).column ≤ lineLength text (positionAt text offset).line
  /-- What lies past the end counts as the end, and between CR and LF stands the end of the line. -/
  offset_eq : ∀ offset, offsetAt text (positionAt text offset) =
    if SplitsLineEnd text (min offset text.length) then min offset text.length - 1
    else min offset text.length
  positions_ordered : ∀ offset later, offset ≤ later →
    positionAt text offset ≤ positionAt text later
  offsets_ordered : ∀ p q, p ≤ q → offsetAt text p ≤ offsetAt text q
  offset_le : ∀ p, offsetAt text p ≤ text.length

/-- In every text, offsets project onto positions: one that splits no line end is given back. -/
theorem projects_positions (text : List Char) : Projects text where
  lineCount_eq := lineCount_eq text
  line_eq := lineAt_eq_endsBefore text
  line_lt := lineAt_lt_lineCount text
  column_le _ := Nat.min_le_right _ _
  offset_eq offset := by
    rw [← positionAt_min]
    exact offsetAt_positionAt (Nat.min_le_right offset text.length)
  positions_ordered _ _ hle := positionAt_le_positionAt text hle
  offsets_ordered _ _ hle := offsetAt_le_offsetAt text hle
  offset_le := offsetAt_le text

/-- The breaks that stay in the text of the line that they end. -/
def isKept (c : Char) : Bool :=
  c = '\x0b' || c = '\x0c' || c = '\u0085' || c = '\u2028' || c = '\u2029'

/-- Whether the text of a line ends with the break that ends the line. -/
def keepsBreak (content : List Char) : Bool := content.getLast?.any isKept

/-- Whether a column is the end of a line whose text ends with its break. -/
def BehindBreak (content : List Char) (column : Nat) : Prop :=
  column = content.length ∧ keepsBreak content = true

instance (content : List Char) (column : Nat) : Decidable (BehindBreak content column) :=
  inferInstanceAs (Decidable (_ ∧ _))

theorem isKept_iff : isKept c = true ↔ isBreak c = true ∧ c ≠ '\n' ∧ c ≠ '\r' := by
  constructor
  · intro hkept
    simp only [isKept, Bool.or_eq_true, decide_eq_true_eq] at hkept
    rcases hkept with (((rfl | rfl) | rfl) | rfl) | rfl <;> decide
  · rintro ⟨hbreak, hlf, hcr⟩
    simpa [isKept, isBreak, hlf, hcr] using hbreak

theorem not_behindBreak_zero (content : List Char) : ¬ BehindBreak content 0 := by
  rintro ⟨hlength, hkeeps⟩
  obtain rfl := List.length_eq_zero_iff.mp hlength.symm
  cases hkeeps

theorem behindBreak_singleton (hc : isKept c = true) : BehindBreak [c] 1 := ⟨rfl, hc⟩

theorem behindBreak_cons_succ (hc : isBreak c = false) :
    BehindBreak (c :: content) (column + 1) ↔ BehindBreak content column := by
  have hkept : isKept c = false :=
    Bool.eq_false_iff.mpr fun hkept => Bool.eq_false_iff.mp hc (isKept_iff.mp hkept).1
  rw [BehindBreak, BehindBreak, List.length_cons, Nat.succ_inj]
  cases content with
  | nil => simp [keepsBreak, hkept]
  | cons first more => rfl

theorem lineAt_column (hline : line? text 0 = some content) (hcolumn : column ≤ content.length) :
    lineAt text column = if BehindBreak content column then 1 else 0 := by
  induction text generalizing content column with
  | nil =>
      obtain rfl : [] = content := Option.some.inj hline
      obtain rfl := Nat.le_zero.mp hcolumn
      rfl
  | cons c rest ih =>
      cases column with
      | zero => rw [lineAt_zero, if_neg (not_behindBreak_zero content)]
      | succ column =>
          have hnot : ¬ (c = '\n' ∨ c = '\r') := by
            intro hc
            obtain rfl := Option.some.inj ((line?_cons_zero_of_lf_or_cr hc rest).symm.trans hline)
            exact absurd hcolumn (Nat.not_succ_le_zero column)
          obtain ⟨hlf, hcr⟩ := not_or.mp hnot
          obtain rfl := Option.some.inj ((line?_cons_zero hlf hcr rest).symm.trans hline)
          rw [lineAt_cons_succ]
          cases hbreak : isBreak c with
          | true =>
              have hends : endsLine c rest = true := by simp [endsLine, hbreak, hcr]
              simp only [hbreak, ↓reduceIte] at hcolumn ⊢
              obtain rfl := Nat.le_zero.mp (Nat.le_of_succ_le_succ hcolumn)
              rw [lineAt_zero, hends, if_pos rfl,
                if_pos (behindBreak_singleton (isKept_iff.mpr ⟨hbreak, hlf, hcr⟩))]
          | false =>
              have hends : endsLine c rest = false := by simp [endsLine, hbreak]
              simp only [hbreak, Bool.false_eq_true, ↓reduceIte] at hcolumn ⊢
              have hpos : 0 < lineCount rest := Nat.zero_lt_of_lt (lineAt_lt_lineCount rest 0)
              obtain ⟨first, hfirst⟩ := exists_line? hpos
              rw [hfirst, Option.getD_some] at hcolumn ⊢
              rw [ih hfirst (Nat.le_of_succ_le_succ hcolumn), hends]
              simp only [Bool.false_eq_true, ↓reduceIte, Nat.add_zero, behindBreak_cons_succ hbreak]

/-- The offset of a column lies on the line of the column, or behind a break on the next one. -/
theorem lineAt_lineStart_add (hline : line? text line = some content)
    (hcolumn : column ≤ content.length) :
    lineAt text (lineStart text line + column) =
      if BehindBreak content column then line + 1 else line := by
  induction text generalizing line with
  | nil =>
      cases line with
      | zero =>
          rw [lineStart_zero, Nat.zero_add]
          exact lineAt_column hline hcolumn
      | succ line => simp [line?, lines, rawLines] at hline
  | cons c rest ih =>
      cases line with
      | zero =>
          rw [lineStart_zero, Nat.zero_add]
          exact lineAt_column hline hcolumn
      | succ line =>
          rw [line?_cons_succ] at hline
          rw [lineStart_cons_succ, Nat.add_right_comm, lineAt_cons_succ, ih hline]
          cases endsLine c rest <;> split <;> simp

/-- The offset of a position leads back to it, or from behind a break to the start of the next line.
-/
theorem positionAt_offsetAt (hline : line? text line = some content)
    (hcolumn : column ≤ content.length) :
    positionAt text (offsetAt text ⟨line, column⟩) =
      if BehindBreak content column then ⟨line + 1, 0⟩ else ⟨line, column⟩ := by
  have hlength : lineLength text line = content.length := by
    rw [lineLength_eq, hline, Option.getD_some]
  have hcount : line < lineCount text := lt_lineCount_of_line? hline
  have hend : lineStart text line + content.length ≤ text.length :=
    hlength ▸ lineStart_add_lineLength_le hcount
  have hoffset : min (lineStart text line + column) text.length = lineStart text line + column :=
    Nat.min_eq_left (by omega)
  rw [offsetAt_of_line? hline hcolumn, positionAt, lineAt_lineStart_add hline hcolumn, hoffset]
  split
  · have hnext : lineStart text line + content.length ≤ lineStart text (line + 1) :=
      hlength ▸ lineStart_add_lineLength_le_succ hcount
    rw [Position.mk.injEq]
    exact ⟨rfl, by omega⟩
  · rw [hlength, Nat.add_sub_cancel_left, Nat.min_eq_left hcolumn]

/-- A position comes back from its offset exactly if it does not stand behind a break that the text
of its line keeps. -/
theorem returns_iff (hline : line? text line = some content) (hcolumn : column ≤ content.length) :
    (positionAt text (offsetAt text ⟨line, column⟩) = ⟨line, column⟩ ↔
        ¬ BehindBreak content column) ∧
      (BehindBreak content column →
        positionAt text (offsetAt text ⟨line, column⟩) = ⟨line + 1, 0⟩) := by
  rw [positionAt_offsetAt hline hcolumn]
  by_cases hbehind : BehindBreak content column <;> simp [hbehind]

end Text

namespace ProjectionWitness

open Text

/-- The first line ends at a vertical tab, which its text keeps, and the second one at CR LF. -/
def text : List Char := ['a', '\x0b', 'b', '\r', '\n', 'c']

/-- In front of a break, and at the end of a line that drops its break, a position comes back;
behind the break that the first line keeps it does not. -/
theorem returns_before_break :
    (line? text 0 = some ['a', '\x0b'] ∧ positionAt text (offsetAt text ⟨0, 1⟩) = ⟨0, 1⟩ ∧
        positionAt text (offsetAt text ⟨0, 2⟩) = ⟨1, 0⟩) ∧
      line? text 1 = some ['b'] ∧ positionAt text (offsetAt text ⟨1, 1⟩) = ⟨1, 1⟩ := by
  have hfirst : line? text 0 = some ['a', '\x0b'] := by decide
  have hsecond : line? text 1 = some ['b'] := by decide
  refine ⟨⟨hfirst, ?_, ?_⟩, hsecond, ?_⟩
  · exact (returns_iff hfirst (by decide)).1.mpr (by decide)
  · exact (returns_iff hfirst (Nat.le_refl 2)).2 (by decide)
  · exact (returns_iff hsecond (Nat.le_refl 1)).1.mpr (by decide)

/-- Not every position of a text comes back from its offset. -/
theorem not_returns_behind_break :
    ¬ ∀ (text : List Char) (line column : Nat), line < lineCount text →
      column ≤ lineLength text line →
        positionAt text (offsetAt text ⟨line, column⟩) = ⟨line, column⟩ := by
  intro hall
  have hreturns := hall text 0 2 (by decide) (by decide)
  have hmoved : positionAt text (offsetAt text ⟨0, 2⟩) = ⟨1, 0⟩ := by decide
  rw [hmoved] at hreturns
  exact absurd hreturns (by decide)

end ProjectionWitness

end QuickFix
