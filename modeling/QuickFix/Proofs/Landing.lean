import QuickFix.Proofs.Continuation
import QuickFix.Proofs.Occurrence
import QuickFix.Proofs.Replacement

/-!
Where insertions land. The lines that match are counted from the front, so the first and the last of
them are the least and the greatest. A text lands where such a line starts or where the next one
does, and behind the last line it begins a line of its own; it never lands inside a line.
-/

namespace QuickFix

theorem isLeast_of_head? {l : List Nat} (hl : l.Pairwise (· < ·)) {n : Nat}
    (hn : l.head? = some n) : IsLeast {m | m ∈ l} n := by
  cases l with
  | nil => cases hn
  | cons first rest =>
      obtain rfl := Option.some.inj hn
      refine ⟨List.mem_cons_self, ?_⟩
      intro m hm
      rcases List.mem_cons.mp hm with rfl | hrest
      · exact Nat.le_refl _
      · exact Nat.le_of_lt ((List.pairwise_cons.mp hl).1 m hrest)

theorem isGreatest_of_getLast? {l : List Nat} (hl : l.Pairwise (· < ·)) {n : Nat}
    (hn : l.getLast? = some n) : IsGreatest {m | m ∈ l} n := by
  obtain ⟨front, rfl⟩ := List.getLast?_eq_some_iff.mp hn
  refine ⟨List.mem_append_right front List.mem_cons_self, ?_⟩
  intro m hm
  rcases List.mem_append.mp hm with hfront | hlast
  · exact Nat.le_of_lt ((List.pairwise_append.mp hl).2.2 m hfront n List.mem_cons_self)
  · exact Nat.le_of_eq (List.mem_singleton.mp hlast)

namespace Document

theorem linesMatching_pairwise_lt (d : Document) (re : Regex) :
    (d.linesMatching re).Pairwise (· < ·) := by
  refine List.Pairwise.sublist (List.filter_sublist.map Prod.snd) ?_
  rw [List.zipIdx_map_snd]
  exact List.pairwise_lt_range'

theorem mem_linesMatching_iff {d : Document} {re : Regex} {n : Nat} :
    n ∈ d.linesMatching re ↔ ∃ line, d.line? n = some line ∧ re.matchesIn line = true := by
  simp only [linesMatching, List.mem_map, List.mem_filter, Prod.exists, List.mem_zipIdx_iff_getElem?]
  constructor
  · rintro ⟨line, _, ⟨hline, hmatch⟩, rfl⟩
    exact ⟨line, hline, hmatch⟩
  · rintro ⟨line, hline, hmatch⟩
    exact ⟨line, n, ⟨hline, hmatch⟩, rfl⟩

end Document

namespace StepContext

variable {ctx : StepContext} {d : Document} {anchor : Anchor} {locate : Option String}

/-- The lines on which the pattern of an anchor matches. -/
def matching (ctx : StepContext) (d : Document) (locate : Option String) : Set Nat :=
  {n | ∃ template re line, locate = some template ∧
    Regex.compile? (ctx.renderer.render template) = some re ∧
    d.line? n = some line ∧ re.matchesIn line = true}

theorem matching_of_compile? {re : Regex}
    (hre : (locate.bind fun t => Regex.compile? (ctx.renderer.render t)) = some re) :
    ctx.matching d locate = {n | n ∈ d.linesMatching re} := by
  obtain ⟨template, rfl, hre⟩ := Option.bind_eq_some_iff.mp hre
  ext n
  rw [Set.mem_ofPred_eq, Document.mem_linesMatching_iff]
  constructor
  · rintro ⟨_, _, line, htemplate, hcompile, hline, hmatch⟩
    obtain rfl := Option.some.inj htemplate
    obtain rfl := Option.some.inj (hcompile.symm.trans hre)
    exact ⟨line, hline, hmatch⟩
  · rintro ⟨line, hline, hmatch⟩
    exact ⟨template, re, line, rfl, hre, hline, hmatch⟩

theorem matching_eq_empty
    (hnone : (locate.bind fun t => Regex.compile? (ctx.renderer.render t)) = none) :
    ctx.matching d locate = ∅ := by
  rw [Set.eq_empty_iff_forall_notMem]
  rintro n ⟨template, re, _, rfl, hre, _⟩
  rw [Option.bind_some, hre] at hnone
  cases hnone

theorem lt_lineCount_of_mem_matching {n : Nat} (hn : n ∈ ctx.matching d locate) :
    n < d.lineCount := by
  obtain ⟨_, _, _, _, _, hline, _⟩ := hn
  exact Text.lt_lineCount_of_line? hline

/-- The line of an insertion: the first one if none matches, or else the one that the anchor means. -/
theorem insertionLine_cases (ctx : StepContext) (d : Document) (anchor : Anchor)
    (locate : Option String) :
    ctx.matching d locate = ∅ ∧ ctx.insertionLine d anchor locate = 0 ∨
      ∃ least greatest, IsLeast (ctx.matching d locate) least ∧
        IsGreatest (ctx.matching d locate) greatest ∧
        ctx.insertionLine d anchor locate =
          match anchor with
          | .start => 0
          | .beforeFirst => least
          | .afterLast => greatest + 1
          | .beforeLast => greatest := by
  unfold insertionLine
  cases hre : locate.bind fun t => Regex.compile? (ctx.renderer.render t) with
  | none => exact .inl ⟨matching_eq_empty hre, rfl⟩
  | some re =>
      have hordered := d.linesMatching_pairwise_lt re
      rw [matching_of_compile? hre]
      simp only
      cases hlast : (d.linesMatching re).getLast? with
      | none =>
          have hnil := List.getLast?_eq_none_iff.mp hlast
          refine .inl ⟨?_, ?_⟩
          · simp [hnil]
          · cases anchor <;> simp [anchorLine, hnil]
      | some greatest =>
          obtain ⟨least, hleast⟩ : ∃ least, (d.linesMatching re).head? = some least := by
            rw [← Option.isSome_iff_exists, List.isSome_head?]
            simp [List.ne_nil_of_mem (List.mem_of_getLast? hlast)]
          refine .inr ⟨least, greatest, isLeast_of_head? hordered hleast,
            isGreatest_of_getLast? hordered hlast, ?_⟩
          cases anchor <;> simp [anchorLine, hlast, hleast]

theorem newText_insertion (d : Document) (line : Nat) (text : String) :
    (insertion d line text).newText.toList =
      if line = d.lineCount then '\n' :: text.toList else text.toList := by
  simp only [insertion, TextEdit.insert]
  split
  · rw [String.toList_append]
    rfl
  · rfl

/-- Where the text of an insertion is put, and what is put there. -/
structure Lands (ctx : StepContext) (d : Document) (anchor : Anchor) (locate : Option String)
    (text : List Char) (p : Nat) (put : List Char) : Prop where
  atStart : anchor = .start ∨ locate = none ∨
      (∃ template, locate = some template ∧
        Regex.compile? (ctx.renderer.render template) = none) ∨
      ctx.matching d locate = ∅ →
    p = 0 ∧ put = text
  beforeFirst : anchor = .beforeFirst → ∀ n, IsLeast (ctx.matching d locate) n →
    p = Text.lineStart d.chars n ∧ put = text
  beforeLast : anchor = .beforeLast → ∀ n, IsGreatest (ctx.matching d locate) n →
    p = Text.lineStart d.chars n ∧ put = text
  afterLast : anchor = .afterLast → ∀ n, IsGreatest (ctx.matching d locate) n →
    n + 1 < d.lineCount ∧ p = Text.lineStart d.chars (n + 1) ∧ put = text ∨
      n + 1 = d.lineCount ∧ p = d.chars.length ∧ put = '\n' :: text
  /-- So there is always a first and a last line where there is any. -/
  bounds : ctx.matching d locate = ∅ ∨ ∃ least greatest,
    IsLeast (ctx.matching d locate) least ∧ IsGreatest (ctx.matching d locate) greatest
  lineFeed : put ≠ text → anchor = .afterLast ∧ ∃ n, IsGreatest (ctx.matching d locate) n ∧
    n + 1 = d.lineCount
  le_length : p ≤ d.chars.length
  /-- No line, with the characters that end it, has the place inside. -/
  outside : ∀ n, ¬ (Text.lineStart d.chars n < p ∧ p < Text.lineStart d.chars (n + 1))

theorem lineStart_outside (text : List Char) (line n : Nat) :
    ¬ (Text.lineStart text n < Text.lineStart text line ∧
      Text.lineStart text line < Text.lineStart text (n + 1)) := by
  rintro ⟨hbefore, hbehind⟩
  rcases Nat.lt_or_ge n line with hlt | hge
  · exact Nat.not_lt_of_le (Text.lineStart_le_lineStart text hlt) hbehind
  · exact Nat.not_lt_of_le (Text.lineStart_le_lineStart text hge) hbefore

theorem lands_insertionLine (ctx : StepContext) (d : Document) (anchor : Anchor)
    (locate : Option String) (text : String) :
    ctx.Lands d anchor locate text.toList
      (Text.lineStart d.chars (ctx.insertionLine d anchor locate))
      (insertion d (ctx.insertionLine d anchor locate) text).newText.toList := by
  rw [newText_insertion]
  have hfirst : (0 : Nat) ≠ d.lineCount :=
    (List.length_pos_iff.mpr (Text.rawLines_ne_nil d.chars)).ne
  have hzero : Text.lineStart d.chars 0 = 0 := Text.lineStart_zero d.chars
  have hlength := Text.lineStart_le_length d.chars (ctx.insertionLine d anchor locate)
  have houtside := lineStart_outside d.chars (ctx.insertionLine d anchor locate)
  rcases ctx.insertionLine_cases d anchor locate with
    ⟨hempty, hline⟩ | ⟨least, greatest, hleast, hgreatest, hline⟩
  · have hnone : ∀ n, n ∉ ctx.matching d locate := Set.eq_empty_iff_forall_notMem.mp hempty
    rw [hline] at hlength houtside ⊢
    rw [if_neg hfirst, hzero]
    exact {
      atStart := fun _ => ⟨rfl, rfl⟩
      beforeFirst := fun _ n hn => absurd hn.1 (hnone n)
      beforeLast := fun _ n hn => absurd hn.1 (hnone n)
      afterLast := fun _ n hn => absurd hn.1 (hnone n)
      bounds := .inl hempty
      lineFeed := fun hne => absurd rfl hne
      le_length := hlength
      outside := houtside }
  · have hlast : greatest < d.lineCount := lt_lineCount_of_mem_matching hgreatest.1
    have hle : least ≤ greatest := hleast.2 hgreatest.1
    have hsome : ctx.matching d locate ≠ ∅ := hgreatest.nonempty.ne_empty
    have hplain : anchor ≠ .afterLast →
        ctx.insertionLine d anchor locate ≠ d.lineCount := by
      intro hanchor
      rw [hline]
      cases anchor with
      | afterLast => exact absurd rfl hanchor
      | start => exact hfirst
      | beforeFirst => exact (Nat.lt_of_le_of_lt hle hlast).ne
      | beforeLast => exact hlast.ne
    refine ⟨?_, ?_, ?_, ?_, .inr ⟨least, greatest, hleast, hgreatest⟩, ?_, hlength, houtside⟩
    · intro hstart
      have hanchor : anchor = .start := by
        rcases hstart with rfl | hnone | ⟨template, htemplate, hmalformed⟩ | hempty
        · rfl
        · exact absurd (matching_eq_empty (by rw [hnone]; rfl)) hsome
        · exact absurd (matching_eq_empty (by rw [htemplate]; exact hmalformed)) hsome
        · exact absurd hempty hsome
      subst hanchor
      rw [if_neg (hplain nofun), hline]
      exact ⟨hzero, rfl⟩
    · rintro rfl n hn
      rw [if_neg (hplain nofun), hline, hn.unique hleast]
      exact ⟨rfl, rfl⟩
    · rintro rfl n hn
      rw [if_neg (hplain nofun), hline, hn.unique hgreatest]
      exact ⟨rfl, rfl⟩
    · rintro rfl n hn
      obtain rfl := hn.unique hgreatest
      rw [hline]
      rcases Nat.lt_or_eq_of_le hlast with hmore | hend
      · exact .inl ⟨hmore, rfl, if_neg hmore.ne⟩
      · exact .inr ⟨hend, Text.lineStart_of_le (Nat.le_of_eq hend.symm), if_pos hend⟩
    · intro hfeed
      by_cases hanchor : anchor = .afterLast
      · subst hanchor
        refine ⟨rfl, greatest, hgreatest, ?_⟩
        rw [hline] at hfeed
        exact Classical.byContradiction fun hne => hfeed (if_neg hne)
      · exact absurd (if_neg (hplain hanchor)) hfeed

/-- What becomes of an insertion that is made: it is the one edit of its step, and puts its text
where the anchor says. -/
structure Inserted (ctx : StepContext) (d : Document) (step : EditStep) (anchor : Anchor)
    (locate : Option String) (made : TextEdit) : Prop where
  take : ctx.take d step = .taken (some made)
  queued : ctx.target step = .ok d → ∀ edit rest,
    ctx.advance ⟨edit, step :: rest⟩ = .onward ⟨edit.push d.path made, rest⟩ ∨
      ∃ needsReapply,
        ctx.advance ⟨edit, step :: rest⟩ = .ended ⟨edit.push d.path made, needsReapply⟩
  lands : ∃ p put, ctx.Lands d anchor locate (ctx.renderer.render step.text).toList p put ∧
    (d.applyEdits [made]).1.chars = d.chars.take p ++ put ++ d.chars.drop p

theorem chars_applyEdits_insertion (d : Document) (line : Nat) (text : String) :
    (d.applyEdits [insertion d line text]).1.chars =
      d.chars.take (Text.lineStart d.chars line) ++ (insertion d line text).newText.toList ++
        d.chars.drop (Text.lineStart d.chars line) := by
  rw [Document.chars_applyEdits_singleton]
  simp only [Document.splice, Document.offsetAt, insertion, TextEdit.insert, Range.caret,
    Text.offsetAt_column_zero, Nat.min_self, Nat.max_self]

/-- An insertion that is needed and whose text is not there yet makes one edit, and that puts the
text where its anchor says. -/
theorem exists_inserted {ctx : StepContext} {d : Document} {step : EditStep} {anchor : Anchor}
    {locate : Option String} (hinsert : step.operation = .insert anchor locate)
    (hneeded : ctx.holds d step.condition = false)
    (habsent : ¬ Document.needle (ctx.renderer.render step.text) <:+: d.chars) :
    ∃ made, ctx.Inserted d step anchor locate made := by
  have hliteral : d.holdsLiteral (ctx.renderer.render step.text) = false := by
    rwa [← Bool.not_eq_true, d.holdsLiteral_iff]
  have htext : ctx.renderer.render step.text ≠ "" := by
    intro hempty
    rw [hempty, d.holdsLiteral_empty] at hliteral
    cases hliteral
  have htake : ctx.take d step = .taken (some
      (insertion d (ctx.insertionLine d anchor locate) (ctx.renderer.render step.text))) := by
    rw [ctx.take_of_needed hneeded htext, hinsert]
    simp only [operate, hliteral, Bool.false_eq_true, ↓reduceIte]
  refine ⟨_, htake, ?_, _, _, ctx.lands_insertionLine d anchor locate _,
    chars_applyEdits_insertion d _ _⟩
  intro htarget edit rest
  simp only [advance, htarget, htake, queue]
  cases ctx.stopsBehind d step rest with
  | none => exact .inl rfl
  | some needsReapply => exact .inr ⟨needsReapply, rfl⟩

end StepContext

namespace LandingWitness

/-- Lines that end in two characters, in one that belongs to the line, and in none. -/
def document : Document := ⟨⟨"/a"⟩, "rust", 0, ['b', '\r', '\n', '\x0c', 'b']⟩

def source : DocumentSource :=
  ⟨some document, [document], DocumentSource.scan [document], fun _ => none⟩

def step : EditStep := (EditStep.insert "c").anchored .afterLast "b"

def ctx : StepContext := ⟨⟨⟨none, none⟩, {}, none⟩, document, source, none⟩

theorem isGreatest_matching : IsGreatest (ctx.matching document (some "b")) 2 := by
  refine ⟨⟨"b", .letter 'b', ['b'], rfl, ?_, ?_, ?_⟩, ?_⟩
  · cbv
  · cbv
  · cbv
  · intro n hn
    exact Nat.le_of_lt_succ (StepContext.lt_lineCount_of_mem_matching hn)

/-- The last line matches and has no end, so the text gets a line feed in front. -/
theorem inserted_behind_last :
    step.operation = .insert .afterLast (some "b") ∧
      ctx.holds document step.condition = false ∧
      ¬ Document.needle (ctx.renderer.render step.text) <:+: document.chars ∧
      ∃ made, ctx.take document step = .taken (some made) ∧
        (document.applyEdits [made]).1.chars = ['b', '\r', '\n', '\x0c', 'b', '\n', 'c'] := by
  have hinsert : step.operation = .insert .afterLast (some "b") := rfl
  have hneeded : ctx.holds document step.condition = false := rfl
  have habsent : ¬ Document.needle (ctx.renderer.render step.text) <:+: document.chars := by
    have hneedle : Document.needle (ctx.renderer.render step.text) = ['c'] := by cbv
    rw [hneedle]
    decide
  obtain ⟨made, hmade⟩ := StepContext.exists_inserted hinsert hneeded habsent
  obtain ⟨p, put, hlands, hchars⟩ := hmade.lands
  refine ⟨hinsert, hneeded, habsent, made, hmade.take, ?_⟩
  rcases hlands.afterLast rfl 2 isGreatest_matching with ⟨hmore, _⟩ | ⟨_, hp, hput⟩
  · exact absurd hmore (by decide)
  · have hrendered : (ctx.renderer.render step.text).toList = ['c'] := by cbv
    rw [hchars, hp, hput, hrendered]
    decide

end LandingWitness

end QuickFix
