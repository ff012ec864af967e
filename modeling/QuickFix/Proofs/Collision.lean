import QuickFix.Proofs.Insertion
import QuickFix.Proofs.Replacement
import QuickFix.Proofs.Resolution

/-!
Edits of one resolution that meet in a document. Every step looks at the text as it was before any
of them, and none knows what the others make. An insertion in front of a line is out of the way of
all else, but two replacements may have found the same piece of text: nothing keeps them from it.
Where the replacements are out of the way of each other, every text that was made stands in the
document, and only what was found is gone.
-/

namespace QuickFix

/-- Whether the range of an edit goes forward on one line. -/
structure TextEdit.OnOneLine (edit : TextEdit) : Prop where
  line : edit.range.start.line = edit.range.stop.line
  forward : edit.range.start.column ≤ edit.range.stop.column

namespace TextEdit

instance (edit : TextEdit) : Decidable edit.BeforeLine :=
  decidable_of_iff (edit.range = .caret ⟨edit.range.start.line, 0⟩)
    ⟨fun hrange => ⟨_, hrange⟩, fun ⟨_, hrange⟩ => by rw [hrange]; rfl⟩

theorem BeforeLine.onOneLine {edit : TextEdit} (hedit : edit.BeforeLine) : edit.OnOneLine := by
  obtain ⟨line, hrange⟩ := hedit
  exact ⟨by rw [hrange]; rfl, by rw [hrange]; exact Nat.le_refl _⟩

theorem onOneLine_replace (m : Located) (hspan : m.span.start ≤ m.span.stop) (text : String) :
    (replace m.range text).OnOneLine := ⟨rfl, hspan⟩

end TextEdit

namespace Document

variable {d : Document} {a b : TextEdit} {edits : List TextEdit}

theorem splice_of_onOneLine (hedit : a.OnOneLine) :
    d.splice a = ⟨d.offsetAt a.range.start, d.offsetAt a.range.stop, a.newText.toList⟩ := by
  have hordered : d.offsetAt a.range.start ≤ d.offsetAt a.range.stop :=
    Text.offsetAt_le_offsetAt d.chars (.inr ⟨hedit.line, hedit.forward⟩)
  simp only [splice, Nat.min_eq_left hordered, Nat.max_eq_right hordered]

/-- An insertion in front of a line is on one side of whatever is on one line. -/
theorem apart_of_beforeLine (ha : a.BeforeLine) (hb : b.OnOneLine) :
    (d.splice a).Apart (d.splice b) := by
  rw [Splice.apart_iff (d.splice_bounds a).1 (d.splice_bounds b).1,
    splice_of_onOneLine ha.onOneLine, splice_of_onOneLine hb]
  obtain ⟨line, hrange⟩ := ha
  simp only [hrange, Range.caret]
  rcases Nat.lt_trichotomy line b.range.start.line with hlt | heq | hgt
  · exact .inl (Text.offsetAt_le_offsetAt d.chars (.inl hlt))
  · exact .inl (Text.offsetAt_le_offsetAt d.chars (.inr ⟨heq, Nat.zero_le _⟩))
  · exact .inr (Text.offsetAt_le_offsetAt d.chars (.inl (hb.line ▸ hgt)))

/-- Edits that are each on one line overlap only if those do that are not in front of a line. -/
theorem compatible_iff_filter (hedits : ∀ edit ∈ edits, edit.OnOneLine) :
    d.Compatible edits ↔ d.Compatible (edits.filter fun edit => ¬ edit.BeforeLine) := by
  simp only [Compatible, List.pairwise_map]
  refine ⟨fun hpairwise => hpairwise.filter _, fun hothers => ?_⟩
  rw [List.pairwise_filter] at hothers
  refine hothers.imp_of_mem fun {a b} ha hb hab => ?_
  by_cases hcaret : a.BeforeLine
  · exact apart_of_beforeLine hcaret (hedits b hb)
  by_cases hcaret' : b.BeforeLine
  · exact (apart_of_beforeLine hcaret' (hedits a ha)).symm
  exact hab (by simpa using hcaret) (by simpa using hcaret')

/-- The characters that no edit of a batch takes away. -/
def kept (d : Document) (edits : List TextEdit) : List Char :=
  (List.range (d.chars.length + 1)).flatMap (Splice.keptAt d.chars (edits.map d.splice))

theorem kept_sublist_atOnce (d : Document) (edits : List TextEdit) :
    (d.kept edits).Sublist (d.atOnce edits) :=
  List.Sublist.flatMap_right _ fun _ _ => List.sublist_append_right _ _

/-- What a batch of edits leaves that do not overlap: all their texts, and around these, in their
order, the characters that no edit takes away. -/
structure Leaves (d : Document) (edits : List TextEdit) (after : Document) : Prop where
  chars : after.chars = d.atOnce edits
  texts : ∀ edit ∈ edits, edit.newText.toList <:+: after.chars
  kept : (d.kept edits).Sublist after.chars

theorem leaves_of_compatible (hcompatible : d.Compatible edits) :
    d.Leaves edits (d.applyEdits edits).1 := by
  have hchars := d.chars_applyEdits hcompatible
  refine ⟨hchars, fun edit hedit => ?_, hchars ▸ d.kept_sublist_atOnce edits⟩
  obtain ⟨hle, hlength⟩ := d.splice_bounds edit
  rw [hchars]
  exact Splice.newText_infix_atOnce (List.mem_map_of_mem hedit) (Nat.le_trans hle hlength)

end Document

namespace StepContext

variable {ctx : StepContext} {d : Document} {step : EditStep} {m : Located}

/-- Whether a step finds what it replaces. -/
def Finds (ctx : StepContext) (d : Document) (step : EditStep) (m : Located) : Prop :=
  ∃ locate stop, step.operation = .replace locate stop ∧ ctx.locate? d locate stop = some m

theorem compiled_of_patterns? {templates : List String} {patterns : List Regex}
    (hpatterns : ctx.patterns? templates = some patterns) : ∀ re ∈ patterns, re.Compiled := by
  induction templates generalizing patterns with
  | nil =>
      simp only [patterns?, List.mapM_nil, Option.pure_def, Option.some.injEq] at hpatterns
      simp [← hpatterns]
  | cons template rest ih =>
      simp only [patterns?, List.mapM_cons, Option.pure_def, Option.bind_eq_bind,
        Option.bind_eq_some_iff, Option.some.injEq] at hpatterns
      obtain ⟨re, hre, others, hothers, rfl⟩ := hpatterns
      rintro other (_ | ⟨_, hother⟩)
      · exact ⟨_, hre⟩
      · exact ih hothers other hother

theorem Finds.exists_line (hfinds : ctx.Finds d step m) :
    ∃ text, d.line? m.line = some text ∧ m.span.start ≤ m.span.stop ∧
      m.span.stop ≤ text.length ∧ m.captured.matched.toList = m.span.slice text := by
  obtain ⟨locate, stop, _, hfound⟩ := hfinds
  simp only [locate?, Option.bind_eq_bind, Option.bind_eq_some_iff] at hfound
  obtain ⟨patterns, hpatterns, stop, _, hfound⟩ := hfound
  exact Document.exists_line_of_locate? (compiled_of_patterns? hpatterns) hfound

/-- What a step finds is a stretch of the document. -/
theorem Finds.standsFor (hfinds : ctx.Finds d step m) : d.StandsFor m := by
  obtain ⟨text, htext, hle, hlength, hmatched⟩ := hfinds.exists_line
  exact Document.standsFor_of_line? htext hle hlength hmatched

/-- A replacement makes an edit only of what it finds. -/
theorem take_replace {locate : List String} {stop : Option String}
    (hreplace : step.operation = .replace locate stop) {made : TextEdit}
    (htake : ctx.take d step = .taken (some made)) :
    ∃ m, ctx.Finds d step m ∧
      made = .replace m.range (m.captured.substitute (ctx.renderer.render step.text)) := by
  simp only [take, hreplace, operate] at htake
  split at htake
  · cases htake
  · split at htake
    · cases htake
    · simp only [StepOutcome.taken.injEq, Option.map_eq_some_iff] at htake
      obtain ⟨m, hfound, hmade⟩ := htake
      exact ⟨m, ⟨locate, stop, hreplace, hfound⟩, hmade.symm⟩

/-- Whether one of some steps inserts an edit in front of a line of the document at some components.
-/
def Inserts (ctx : StepContext) (steps : List EditStep) (k : List Component) (made : TextEdit) :
    Prop :=
  ∃ step ∈ steps, ∃ d anchor locate, ctx.target step = .ok d ∧ d.path.components = k ∧
    step.operation = .insert anchor locate ∧
      made = insertion d (ctx.insertionLine d anchor locate) (ctx.renderer.render step.text)

/-- Whether one of some steps replaces by an edit what it finds in the document at some components.
-/
def Replaces (ctx : StepContext) (steps : List EditStep) (k : List Component) (made : TextEdit) :
    Prop :=
  ∃ step ∈ steps, ∃ d m, ctx.target step = .ok d ∧ d.path.components = k ∧ ctx.Finds d step m ∧
    made = .replace m.range (m.captured.substitute (ctx.renderer.render step.text))

variable {steps : List EditStep} {k : List Component} {made : TextEdit}

theorem Makes.inserts_or_replaces (hmakes : ctx.Makes steps k made) :
    ctx.Inserts steps k made ∨ ctx.Replaces steps k made := by
  obtain ⟨step, hstep, d, htarget, hpath, htake⟩ := hmakes
  cases hoperation : step.operation with
  | insert anchor locate =>
      obtain ⟨_, hmade⟩ := take_insert hoperation htake
      exact .inl ⟨step, hstep, d, anchor, locate, htarget, hpath, hoperation, hmade⟩
  | replace locate stop =>
      obtain ⟨m, hfinds, hmade⟩ := take_replace hoperation htake
      exact .inr ⟨step, hstep, d, m, htarget, hpath, hfinds, hmade⟩

theorem Inserts.beforeLine (hinserts : ctx.Inserts steps k made) : made.BeforeLine := by
  obtain ⟨_, _, d, _, _, _, _, _, rfl⟩ := hinserts
  exact insertion_beforeLine d _ _

theorem Replaces.onOneLine (hreplaces : ctx.Replaces steps k made) : made.OnOneLine := by
  obtain ⟨_, _, _, m, _, _, hfinds, rfl⟩ := hreplaces
  obtain ⟨_, _, hle, _⟩ := hfinds.exists_line
  exact TextEdit.onOneLine_replace m hle _

/-- What some steps make of a document: each edit is an insertion in front of a line or replaces
what was found, and two edits overlap only if both replace. -/
structure Composes (ctx : StepContext) (steps : List EditStep) (d : Document)
    (edits : List TextEdit) : Prop where
  made : ∀ edit ∈ edits, ctx.Inserts steps d.path.components edit ∧ edit.BeforeLine ∨
    ctx.Replaces steps d.path.components edit
  /-- What a step finds is a stretch of its document. -/
  found : ∀ step ∈ steps, ∀ target m, ctx.Finds target step m → target.StandsFor m
  /-- Nothing is taken away but in the range of what a step found. -/
  covers : ∀ edit ∈ edits, ∀ offset, (d.splice edit).Covers offset →
    ctx.Replaces steps d.path.components edit ∧
      d.offsetAt edit.range.start ≤ offset ∧ offset < d.offsetAt edit.range.stop
  apart : edits.Pairwise fun a b => (d.splice a).Apart (d.splice b) ∨
    ctx.Replaces steps d.path.components a ∧ ctx.Replaces steps d.path.components b
  /-- So it is the replacements that decide, leaving out what they put in front of a line. -/
  compatible_iff :
    d.Compatible edits ↔ d.Compatible (edits.filter fun edit => ¬ edit.BeforeLine)
  leaves : d.Compatible (edits.filter fun edit => ¬ edit.BeforeLine) →
    d.Leaves edits (d.applyEdits edits).1

theorem composes_of_makes {edits : List TextEdit}
    (hmakes : ∀ edit ∈ edits, ctx.Makes steps d.path.components edit) :
    ctx.Composes steps d edits := by
  have hline : ∀ edit ∈ edits, edit.OnOneLine := by
    intro edit hedit
    rcases (hmakes edit hedit).inserts_or_replaces with hinserts | hreplaces
    · exact hinserts.beforeLine.onOneLine
    · exact hreplaces.onOneLine
  have hiff := d.compatible_iff_filter hline
  refine ⟨fun edit hedit => ?_, fun _ _ _ _ hfinds => hfinds.standsFor,
    fun edit hedit offset hcovers => ?_, ?_, hiff,
    fun hothers => d.leaves_of_compatible (hiff.mpr hothers)⟩
  · exact (hmakes edit hedit).inserts_or_replaces.imp_left fun h => ⟨h, h.beforeLine⟩
  · rcases (hmakes edit hedit).inserts_or_replaces with hinserts | hreplaces
    · exact absurd hcovers (Document.splice_betweenLines hinserts.beforeLine).covers
    · rw [Document.splice_of_onOneLine (hline edit hedit)] at hcovers
      exact ⟨hreplaces, hcovers⟩
  · refine List.pairwise_of_forall_mem_list fun a ha b hb => ?_
    rcases (hmakes a ha).inserts_or_replaces with hinserts | ha'
    · exact .inl (Document.apart_of_beforeLine hinserts.beforeLine (hline b hb))
    rcases (hmakes b hb).inserts_or_replaces with hinserts | hb'
    · exact .inl (Document.apart_of_beforeLine hinserts.beforeLine (hline a ha)).symm
    exact .inr ⟨ha', hb'⟩

end StepContext

/-- The edits of one resolution overlap in a document only where two steps replace; where these do
not overlap, every text is left in the document and only what was found is gone. -/
theorem CandidateAction.resolveEdits_composes {action : CandidateAction} {source : DocumentSource}
    {r : ResolvedEdits} (hok : action.resolveEdits source = .ok r) :
    ∃ active, source.active = some active ∧ ∀ d : Document,
      (action.context source active).Composes action.rule.steps d (r.edit.editsFor d.path) := by
  cases hactive : source.active with
  | none => simp [resolveEdits, hactive] at hok
  | some active =>
      refine ⟨active, rfl, fun d => StepContext.composes_of_makes fun edit hedit => ?_⟩
      obtain ⟨file, hfile, hmem⟩ := (r.edit.mem_editsFor_iff d.path edit).mp hedit
      exact resolveEdits_makes hactive hok hfile hmem

namespace CollisionWitness

def document : Document := ⟨⟨"/a"⟩, "rust", 0, ['a', 'b', 'c']⟩

def source : DocumentSource :=
  ⟨some document, [document], DocumentSource.scan [document], fun _ => none⟩

def action (steps : List EditStep) : CandidateAction :=
  ⟨"t", "rust", document.path, ⟨"t", [], none, steps, none, true⟩, ⟨none, none⟩, {}, none⟩

/-- The resolution that queues some edits of the document. -/
def queued (edits : List TextEdit) : ResolvedEdits :=
  ⟨edits.foldl (fun edit made => edit.push document.path made) .empty, false⟩

/-- Two replacements, the second of them inside what the first one replaces. -/
def nested : List EditStep := [.replace "abc" "x", .replace "b" "yy"]

def nestedEdits : List TextEdit := [.replace ⟨⟨0, 0⟩, ⟨0, 3⟩⟩ "x", .replace ⟨⟨0, 1⟩, ⟨0, 2⟩⟩ "yy"]

theorem resolveEdits_nested : (action nested).resolveEdits source = .ok (queued nestedEdits) := by
  cbv

theorem editsFor_nested : (queued nestedEdits).edit.editsFor document.path = nestedEdits := by cbv

theorem chars_nested : (document.applyEdits nestedEdits).1.chars = ['x', 'c'] := by cbv

/-- The edits of one resolution may overlap, and then not all of their texts are left. -/
theorem overlaps_nested :
    ∃ r, (action nested).resolveEdits source = .ok r ∧
      ¬ document.Compatible (r.edit.editsFor document.path) ∧
      ∃ edit ∈ r.edit.editsFor document.path, ¬ edit.newText.toList <:+:
        (document.applyEdits (r.edit.editsFor document.path)).1.chars := by
  refine ⟨queued nestedEdits, resolveEdits_nested, ?_, .replace ⟨⟨0, 1⟩, ⟨0, 2⟩⟩ "yy", ?_, ?_⟩
  · rw [editsFor_nested, Document.compatible_iff]
    decide
  · rw [editsFor_nested]
    decide
  · rw [editsFor_nested, chars_nested]
    decide

/-- Two replacements side by side, and an insertion in front of them. -/
def beside : List EditStep := [.replace "b" "x", .insert "y", .replace "a" "zz"]

def besideEdits : List TextEdit :=
  [.replace ⟨⟨0, 1⟩, ⟨0, 2⟩⟩ "x", .insert ⟨0, 0⟩ "y", .replace ⟨⟨0, 0⟩, ⟨0, 1⟩⟩ "zz"]

theorem resolveEdits_beside : (action beside).resolveEdits source = .ok (queued besideEdits) := by
  cbv

theorem editsFor_beside : (queued besideEdits).edit.editsFor document.path = besideEdits := by cbv

/-- Side by side, the replacements leave all texts and the character that no step found. -/
theorem composes_beside :
    (action beside).resolveEdits source = .ok (queued besideEdits) ∧
      document.Compatible besideEdits ∧
      (document.applyEdits besideEdits).1.chars = ['y', 'z', 'z', 'x', 'c'] := by
  obtain ⟨_, _, hcomposes⟩ := CandidateAction.resolveEdits_composes resolveEdits_beside
  have hdocument := hcomposes document
  rw [editsFor_beside] at hdocument
  have hreplaced :
      document.Compatible (besideEdits.filter fun edit => ¬ edit.BeforeLine) := by
    rw [Document.compatible_iff]
    decide
  refine ⟨resolveEdits_beside, hdocument.compatible_iff.mpr hreplaced, ?_⟩
  rw [(hdocument.leaves hreplaced).chars]
  decide

end CollisionWitness

end QuickFix
