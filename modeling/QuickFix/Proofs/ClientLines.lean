import QuickFix.Proofs.Sending

/-!
Lines as clients count them: they end at LF, CR LF and CR only, where the lines of a document also
end at VT, FF, NEL, LS and PS. A position that is sent with its line as it is means the same place
for the client if no break of the second kind stands before the line. If one does, then the client
looks for the line further behind; it still gets to the end of the text where the position is there.
-/

namespace QuickFix

namespace Text

/-- The characters that end a line for a client. -/
def isTerminator (c : Char) : Bool := c = '\n' || c = '\r'

/-- Whether a line ends for a client after `c`, given what follows. -/
def terminates (c : Char) (rest : List Char) : Bool :=
  isTerminator c && !(c = '\r' && rest.head? = some '\n')

/-- The offset, in code units, that a client gives a line and a character. A character past the end
of a line is the end of that line, and a line past the end is the end of the text. -/
def clientOffset : List Char → Nat → Nat → Nat
  | cs, 0, character => min character (units (cs.takeWhile fun c => !isTerminator c))
  | [], _ + 1, _ => 0
  | c :: rest, line + 1, character =>
    unitsOf c + clientOffset rest (if terminates c rest then line else line + 1) character

/-- Whether every break in a text ends a line for a client too. -/
def Plain (text : List Char) : Prop := ∀ c ∈ text, isBreak c = true → isTerminator c = true

variable {c : Char} {text rest : List Char} {line column character : Nat}

theorem endsLine_of_terminates (hends : terminates c rest = true) : endsLine c rest = true := by
  simp only [terminates, endsLine, isTerminator, isBreak, Bool.and_eq_true, Bool.or_eq_true] at hends ⊢
  refine ⟨?_, hends.2⟩
  rcases hends.1 with hc | hc <;> simp [hc]

theorem terminates_eq_endsLine (hplain : isBreak c = true → isTerminator c = true) :
    terminates c rest = endsLine c rest := by
  cases hbreak : isBreak c with
  | true => simp [terminates, endsLine, hbreak, hplain hbreak]
  | false =>
      have hnot : isTerminator c = false := by
        simp only [isBreak, Bool.or_eq_false_iff] at hbreak
        simp [isTerminator, hbreak]
      simp [terminates, endsLine, hbreak, hnot]

theorem endsLine_of_not_plain (hbreak : isBreak c = true) (hc : isTerminator c = false)
    (rest : List Char) :
    endsLine c rest = true ∧ terminates c rest = false := by
  have hcr : c ≠ '\r' := by
    rintro rfl
    cases hc
  simp [endsLine, terminates, hbreak, hc, hcr]

/-- The text of the first line has no terminators, so it is all on the client's first line. -/
theorem line?_zero (text : List Char) :
    ∃ first, line? text 0 = some first ∧ first <+: text.takeWhile fun c => !isTerminator c := by
  induction text with
  | nil => exact ⟨[], rfl, List.prefix_refl _⟩
  | cons c rest ih =>
      cases hc : isTerminator c with
      | true =>
          simp only [isTerminator, Bool.or_eq_true, decide_eq_true_eq] at hc
          exact ⟨[], line?_cons_zero_of_lf_or_cr hc rest, List.nil_prefix⟩
      | false =>
          have hnot : c ≠ '\n' ∧ c ≠ '\r' := by simpa [isTerminator] using hc
          refine ⟨_, line?_cons_zero hnot.1 hnot.2 rest, ?_⟩
          rw [List.takeWhile_cons_of_pos (by simp [hc]), List.prefix_cons_inj]
          split
          · exact List.nil_prefix
          · obtain ⟨first, hfirst, hbegins⟩ := ih
            rwa [hfirst, Option.getD_some]

theorem clientOffset_cons_succ (c : Char) (rest : List Char) (line character : Nat) :
    clientOffset (c :: rest) (line + 1) character =
      unitsOf c + clientOffset rest (if terminates c rest then line else line + 1) character := rfl

theorem clientOffset_le (text : List Char) (line character : Nat) :
    clientOffset text line character ≤ units text := by
  induction text generalizing line with
  | nil => cases line <;> simp [clientOffset, units]
  | cons c rest ih =>
      cases line with
      | zero =>
          exact Nat.le_trans (Nat.min_le_right _ _) (units_le_units (List.takeWhile_prefix _))
      | succ line => exact Nat.add_le_add_left (ih _) _

/-- On the first line a client finds what a column of the document means. -/
theorem clientOffset_zero (hcolumn : column ≤ ((line? text 0).getD []).length) :
    clientOffset text 0 (unitsBefore ((line? text 0).getD []) column) =
      unitsBefore text column := by
  obtain ⟨first, hfirst, hbegins⟩ := line?_zero text
  rw [hfirst, Option.getD_some] at hcolumn ⊢
  have hunits : unitsBefore first column ≤ units (text.takeWhile fun c => !isTerminator c) :=
    units_le_units ((List.take_prefix column first).trans hbegins)
  have hsame : first.take column = text.take column := by
    obtain ⟨behind, hbehind⟩ := hbegins.trans (List.takeWhile_prefix _)
    rw [← hbehind, List.take_append_of_le_length hcolumn]
  rw [clientOffset, Nat.min_eq_left hunits, unitsBefore, hsame, unitsBefore]

/-- Behind breaks that both know, a client finds what a position means. -/
theorem clientOffset_of_plain (hcolumn : column ≤ ((line? text line).getD []).length)
    (hplain : Plain (text.take (lineStart text line))) :
    clientOffset text line (unitsBefore ((line? text line).getD []) column) =
      unitsBefore text (lineStart text line + column) := by
  induction text generalizing line with
  | nil =>
      cases line with
      | zero =>
          rw [lineStart_zero, Nat.zero_add]
          exact clientOffset_zero hcolumn
      | succ line => simp [clientOffset, unitsBefore, units]
  | cons c rest ih =>
      cases line with
      | zero =>
          rw [lineStart_zero, Nat.zero_add]
          exact clientOffset_zero hcolumn
      | succ line =>
          rw [lineStart_cons_succ, List.take_succ_cons] at hplain
          have hends : terminates c rest = endsLine c rest :=
            terminates_eq_endsLine (hplain c List.mem_cons_self)
          rw [line?_cons_succ] at hcolumn ⊢
          rw [clientOffset_cons_succ, lineStart_cons_succ, hends,
            ih hcolumn fun b hb => hplain b (List.mem_cons_of_mem c hb), Nat.add_right_comm,
            unitsBefore_cons_succ]

/-- Whether a client gets behind an offset, or to the end of the text as the offset does. -/
def Overshoots (text : List Char) (offset client : Nat) : Prop :=
  offset = text.length ∧ client = units text ∨ unitsBefore text offset < client

theorem Overshoots.cons {offset client : Nat} (hover : Overshoots rest offset client) (c : Char) :
    Overshoots (c :: rest) (offset + 1) (unitsOf c + client) := by
  rcases hover with ⟨hoffset, hclient⟩ | hlt
  · exact .inl ⟨congrArg (· + 1) hoffset, congrArg (unitsOf c + ·) hclient⟩
  · exact .inr (Nat.add_lt_add_left hlt _)

/-- A later line is behind the first one, if there is a later one. -/
theorem overshoots_first (text : List Char) (line character : Nat) :
    Overshoots text (text.takeWhile fun c => !isTerminator c).length
      (clientOffset text (line + 1) character) := by
  induction text with
  | nil => exact .inl ⟨rfl, rfl⟩
  | cons c rest ih =>
      rw [clientOffset_cons_succ]
      cases hc : isTerminator c with
      | true =>
          rw [List.takeWhile_cons_of_neg (by simp [hc])]
          exact .inr (Nat.add_pos_left (unitsOf_pos c) _)
      | false =>
          have hends : terminates c rest = false := by simp [terminates, hc]
          rw [List.takeWhile_cons_of_pos (by simp [hc]), hends]
          exact ih.cons c

theorem Overshoots.of_le {offset later client : Nat} (hover : Overshoots text later client)
    (hle : offset ≤ later) (hlater : later ≤ text.length) : Overshoots text offset client := by
  rcases Nat.lt_or_eq_of_le hle with hlt | rfl
  · have hbefore := unitsBefore_lt hlt hlater
    rcases hover with ⟨rfl, rfl⟩ | hclient
    · exact .inr (unitsBefore_length text ▸ hbefore)
    · exact .inr (Nat.lt_trans hbefore hclient)
  · exact hover

/-- A client that looks for a later line gets behind the position. -/
theorem overshoots_of_lt {later : Nat} (hcolumn : column ≤ ((line? text line).getD []).length)
    (hlt : line < later) (character : Nat) :
    Overshoots text (lineStart text line + column) (clientOffset text later character) := by
  induction text generalizing line later with
  | nil =>
      obtain ⟨later, rfl⟩ := Nat.exists_eq_add_one_of_ne_zero (Nat.ne_zero_of_lt hlt)
      have hnone : column = 0 ∧ lineStart [] line = 0 := by
        cases line <;> simpa [line?, lines, rawLines, trimEnd, dropLastIf, lineStart] using hcolumn
      rw [hnone.1, hnone.2]
      exact .inl ⟨rfl, rfl⟩
  | cons c rest ih =>
      obtain ⟨later, rfl⟩ := Nat.exists_eq_add_one_of_ne_zero (Nat.ne_zero_of_lt hlt)
      cases line with
      | zero =>
          obtain ⟨first, hfirst, hbegins⟩ := line?_zero (c :: rest)
          rw [hfirst, Option.getD_some] at hcolumn
          rw [lineStart_zero, Nat.zero_add]
          exact (overshoots_first (c :: rest) later character).of_le
            (Nat.le_trans hcolumn hbegins.length_le) (List.takeWhile_prefix _).length_le
      | succ line =>
          have hlt := Nat.lt_of_succ_lt_succ hlt
          rw [line?_cons_succ] at hcolumn
          rw [lineStart_cons_succ, clientOffset_cons_succ, Nat.add_right_comm]
          have hstill : (if endsLine c rest then line else line + 1) <
              if terminates c rest then later else later + 1 := by
            cases hends : terminates c rest with
            | true => simpa [endsLine_of_terminates hends] using hlt
            | false => cases endsLine c rest <;> simp <;> omega
          exact (ih hcolumn hstill).cons c

/-- Behind a break that the client does not know, it gets behind the position. -/
theorem overshoots_of_not_plain (hcolumn : column ≤ ((line? text line).getD []).length)
    (hplain : ¬ Plain (text.take (lineStart text line))) (character : Nat) :
    Overshoots text (lineStart text line + column) (clientOffset text line character) := by
  induction text generalizing line with
  | nil => exact absurd (fun _ hb => by simp at hb) hplain
  | cons c rest ih =>
      cases line with
      | zero => exact absurd (fun _ hb => by simp [lineStart] at hb) hplain
      | succ line =>
          rw [lineStart_cons_succ, List.take_succ_cons] at hplain
          rw [line?_cons_succ] at hcolumn
          rw [lineStart_cons_succ, clientOffset_cons_succ, Nat.add_right_comm]
          by_cases hc : isBreak c = true → isTerminator c = true
          · rw [terminates_eq_endsLine hc]
            refine (ih hcolumn fun hrest => hplain ?_).cons c
            exact List.forall_mem_cons.mpr ⟨hc, hrest⟩
          · obtain ⟨hbreak, hnot⟩ := Classical.not_imp.mp hc
            obtain ⟨hends, hgoes⟩ :=
              endsLine_of_not_plain hbreak (Bool.eq_false_iff.mpr hnot) rest
            rw [hends] at hcolumn ⊢
            rw [hgoes]
            exact (overshoots_of_lt hcolumn (Nat.lt_succ_self line) character).cons c

/-- A client finds what a position means exactly if that is the end of the text or every break
before its line ends a line for the client too. -/
theorem clientOffset_eq_iff (hcolumn : column ≤ ((line? text line).getD []).length) :
    clientOffset text line (unitsBefore ((line? text line).getD []) column) =
        unitsBefore text (lineStart text line + column) ↔
      lineStart text line + column = text.length ∨ Plain (text.take (lineStart text line)) := by
  by_cases hplain : Plain (text.take (lineStart text line))
  · exact iff_of_true (clientOffset_of_plain hcolumn hplain) (.inr hplain)
  · have hle := clientOffset_le text line (unitsBefore ((line? text line).getD []) column)
    rcases overshoots_of_not_plain hcolumn hplain _ with ⟨hend, hclient⟩ | hlt
    · rw [hend, unitsBefore_length]
      exact iff_of_true hclient (.inl rfl)
    · refine iff_of_false (Nat.ne_of_gt hlt) ?_
      rintro (hend | hall)
      · rw [hend, unitsBefore_length] at hlt
        exact Nat.not_lt_of_le hle hlt
      · exact hplain hall

/-- A column of a line, or the first one of a line past the end, lies that far behind where the line
starts. -/
theorem offsetAt_eq_add (hcolumn : column ≤ ((line? text line).getD []).length) :
    offsetAt text ⟨line, column⟩ = lineStart text line + column := by
  cases hline : line? text line with
  | some content => exact offsetAt_of_line? hline (by simpa [hline] using hcolumn)
  | none =>
      have hzero : column = 0 := by simpa [hline] using hcolumn
      rw [hzero, offsetAt_column_zero, Nat.add_zero]

end Text

namespace Document

variable {d : Document} {p : Position} {made : TextEdit}

/-- The offset, in code units, that a client gives a position it is sent. -/
def clientOffset (d : Document) (p : ClientPosition) : Nat :=
  Text.clientOffset d.chars p.line.toNat p.character.toNat

/-- Where a client begins and ends to select a range, in code units. -/
def clientSpan (d : Document) (r : ClientRange) : Nat × Nat :=
  (d.clientOffset r.start, d.clientOffset r.stop)

/-- Where the place of an edit begins and ends, in code units. -/
def unitSpan (d : Document) (made : TextEdit) : Nat × Nat :=
  (Text.unitsBefore d.chars (d.span made).1, Text.unitsBefore d.chars (d.span made).2)

/-- Whether every break before a line of a document ends a line for a client too. -/
def PlainBefore (d : Document) (line : Nat) : Prop :=
  Text.Plain (d.chars.take (Text.lineStart d.chars line))

theorem clientOffset_toClient_iff (hadmits : d.Admits p) (hcounts : d.Counts p) :
    d.clientOffset (d.toClient p) = Text.unitsBefore d.chars (d.offsetAt p) ↔
      d.offsetAt p = d.chars.length ∨ d.PlainBefore p.line := by
  have hoffset : d.offsetAt p = Text.lineStart d.chars p.line + p.column :=
    Text.offsetAt_eq_add hadmits.column_le
  simp only [clientOffset, toClient, UInt32.toNat_ofNat_of_lt' hcounts.line,
    UInt32.toNat_ofNat_of_lt' hcounts.units, hoffset]
  exact Text.clientOffset_eq_iff hadmits.column_le

/-- A client selects what an edit on one line replaces exactly if the edit is at the end of the text
or every break before its line ends a line for the client too. -/
theorem clientSpan_eq_iff (hline : made.OnOneLine) (hadmits : made.AtEnds d.Admits)
    (hcounts : made.AtEnds d.Counts) :
    d.clientSpan (d.toClientRange made.range) = d.unitSpan made ↔
      d.offsetAt made.range.start = d.chars.length ∨ d.PlainBefore made.range.start.line := by
  have hordered : d.offsetAt made.range.start ≤ d.offsetAt made.range.stop :=
    Text.offsetAt_le_offsetAt d.chars (.inr ⟨hline.line, hline.forward⟩)
  have hend : d.offsetAt made.range.stop ≤ d.chars.length := Text.offsetAt_le d.chars _
  rw [clientSpan, unitSpan, span, splice_of_onOneLine hline, toClientRange, Prod.mk.injEq,
    clientOffset_toClient_iff hadmits.1 hcounts.1, clientOffset_toClient_iff hadmits.2 hcounts.2,
    ← hline.line]
  constructor
  · exact fun hboth => hboth.1
  · rintro (hstart | hplain)
    · exact ⟨.inl hstart, .inl (Nat.le_antisymm hend (hstart ▸ hordered))⟩
    · exact ⟨.inr hplain, .inr hplain⟩

end Document

/-- A client selects what an attached edit replaces exactly if the edit is at the end of the text or
no break stands before its line that the client does not know. -/
theorem Engine.selects_iff {e : Engine} {action : CandidateAction} {source : DocumentSource}
    {edit : WorkspaceEdit} (hcoherent : source.Coherent)
    (hedit : (e.resolve action source).2.edit = some edit) :
    ∀ file ∈ edit.files, ∃ d, source.find? file.path = some d ∧
      ∀ made ∈ file.edits, made.AtEnds d.Counts →
        (d.clientSpan (d.toClientRange made.range) = d.unitSpan made ↔
          d.offsetAt made.range.start = d.chars.length ∨
            d.PlainBefore made.range.start.line) := by
  obtain ⟨hwell, hmade⟩ := made_of_resolve hedit
  intro file hfile
  obtain ⟨d, hfound, _⟩ := hmade.placed hwell hcoherent file hfile
  refine ⟨d, hfound, fun made hmem hcounts => ?_⟩
  obtain ⟨other, hoffer, hpath, hline, hadmits⟩ := hmade file hfile made hmem
  obtain rfl : other = d :=
    Option.some.inj ((hcoherent other hoffer file.path hpath).symm.trans hfound)
  exact Document.clientSpan_eq_iff hline hadmits hcounts

namespace ClientLinesWitness

/-- A form feed ends the first line, but not for a client. -/
def text : String := "a\x0cb\n"

def operations : List Workspace.Operation := [.openDocument ⟨"/a"⟩ "rust" text]

def source : DocumentSource := (Workspace.afterAll operations).source

def document : Document := .ofText ⟨"/a"⟩ "rust" text

/-- An insertion in front of the first line, and a replacement on the second one. -/
def rule : Rule := ⟨"t", [], none, [.insert "x", .replace "b" "c"], none, true⟩

def action : CandidateAction := ⟨"t", "rust", ⟨"/a"⟩, rule, ⟨none, none⟩, {}, none⟩

def serving : Engine := (({} : Engine).reload ⟨{}, [⟨["rust"], [rule]⟩]⟩).1

def inserted : TextEdit := .insert ⟨0, 0⟩ "x"

def replaced : TextEdit := .replace ⟨⟨1, 0⟩, ⟨1, 1⟩⟩ "c"

def file : FileEdits := ⟨⟨"/a"⟩, [inserted, replaced]⟩

def edit : WorkspaceEdit := (WorkspaceEdit.empty.push ⟨"/a"⟩ inserted).push ⟨"/a"⟩ replaced

theorem resolve_action : (serving.resolve action source).2.edit = some edit := by cbv

theorem files_edit : edit.files = [file] := by cbv

theorem find?_source : source.find? file.path = some document := by cbv

theorem counts_inserted : inserted.AtEnds document.Counts := by
  have hunits : Text.unitsBefore ((document.line? 0).getD []) 0 = 0 := rfl
  have hcounts : document.Counts ⟨0, 0⟩ := ⟨by decide, by rw [hunits]; decide⟩
  exact ⟨hcounts, hcounts⟩

theorem counts_replaced : replaced.AtEnds document.Counts := by
  have hbefore : Text.unitsBefore ((document.line? 1).getD []) 0 = 0 := rfl
  have hbehind : Text.unitsBefore ((document.line? 1).getD []) 1 = 1 := by cbv
  have hstart : document.Counts ⟨1, 0⟩ := ⟨by decide, by rw [hbefore]; decide⟩
  have hstop : document.Counts ⟨1, 1⟩ := ⟨by decide, by rw [hbehind]; decide⟩
  exact ⟨hstart, hstop⟩

/-- In front of the form feed the client selects what the edit replaces, and behind it something
else. -/
theorem selects_before_break :
    source.Coherent ∧ (serving.resolve action source).2.edit = some edit ∧
      document.clientSpan (document.toClientRange inserted.range) = document.unitSpan inserted ∧
      document.clientSpan (document.toClientRange replaced.range) ≠ document.unitSpan replaced := by
  have hcoherent : source.Coherent := Workspace.source_coherent operations
  obtain ⟨d, hfound, hselects⟩ :=
    Engine.selects_iff hcoherent resolve_action file (files_edit ▸ List.mem_cons_self)
  obtain rfl : d = document := Option.some.inj (hfound.symm.trans find?_source)
  refine ⟨hcoherent, resolve_action, ?_, ?_⟩
  · apply (hselects inserted List.mem_cons_self counts_inserted).mpr
    exact .inr fun c hc => absurd hc List.not_mem_nil
  · intro hsame
    have hmem : replaced ∈ file.edits := List.mem_cons_of_mem inserted List.mem_cons_self
    rcases (hselects replaced hmem counts_replaced).mp hsame with hend | hplain
    · exact absurd hend (by cbv)
    · have hbreak : '\x0c' ∈ document.chars.take (Text.lineStart document.chars 1) := by
        have htake : document.chars.take (Text.lineStart document.chars 1) = ['a', '\x0c'] := by cbv
        simp [htake]
      exact absurd (hplain '\x0c' hbreak rfl) (by decide)

theorem clientSpan_replaced :
    document.clientSpan (document.toClientRange replaced.range) = (4, 4) := by cbv

theorem unitSpan_replaced : document.unitSpan replaced = (2, 3) := by cbv

/-- Not every attached edit replaces what a client selects. -/
theorem not_selects_replaced :
    ¬ ∀ (e : Engine) action source edit, source.Coherent →
      (e.resolve action source).2.edit = some edit →
      ∀ file ∈ edit.files, ∃ d, source.find? file.path = some d ∧
        ∀ made ∈ file.edits, made.AtEnds d.Counts →
          d.clientSpan (d.toClientRange made.range) = d.unitSpan made := by
  intro hall
  obtain ⟨d, hfound, hselects⟩ := hall serving action source edit
    (Workspace.source_coherent operations) resolve_action file (files_edit ▸ List.mem_cons_self)
  obtain rfl : d = document := Option.some.inj (hfound.symm.trans find?_source)
  have hsame := hselects replaced (List.mem_cons_of_mem inserted List.mem_cons_self) counts_replaced
  rw [clientSpan_replaced, unitSpan_replaced] at hsame
  exact absurd hsame (by decide)

end ClientLinesWitness

end QuickFix
