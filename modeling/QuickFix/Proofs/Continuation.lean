import Mathlib
import QuickFix.Proofs.Resolution

/-!
What stands behind a step. A step that is skipped always gives way to the next one. A replacement
that finds nothing makes no edit either, but its continuation is looked at as if it had: it is the
one step that can end a resolution, or ask for another, without an edit. The continuation that looks
ahead looks for the condition of the next step where the step itself was taken, not where the next
one will be.
-/

namespace QuickFix

namespace StepContext

variable (ctx : StepContext)

/-- Whether the text that a step inserts is already there. -/
structure Repeats (d : Document) (step : EditStep) : Prop where
  needed : ctx.holds d step.condition = false
  text : ctx.renderer.render step.text ≠ ""
  inserts : ∃ anchor locate, step.operation = .insert anchor locate
  present : d.holdsLiteral (ctx.renderer.render step.text) = true

/-- Whether a step finds nothing to replace. -/
structure Misses (d : Document) (step : EditStep) : Prop where
  needed : ctx.holds d step.condition = false
  text : ctx.renderer.render step.text ≠ ""
  absent : ∃ locate stop, step.operation = .replace locate stop ∧
    ctx.locate? d locate stop = none

/-- The three ways in which a step makes no edit: it is not needed, its text is already there, or
there is nothing to replace. -/
def Idle (d : Document) (step : EditStep) : Prop :=
  ctx.holds d step.condition = true ∨ ctx.Repeats d step ∨ ctx.Misses d step

theorem operate_eq_skipped_iff (d : Document) (operation : Operation) (text : String) :
    ctx.operate d operation text = .skipped ↔
      (∃ anchor locate, operation = .insert anchor locate) ∧ d.holdsLiteral text = true := by
  cases operation with
  | insert anchor locate => by_cases hpresent : d.holdsLiteral text <;> simp [operate, hpresent]
  | replace locate stop => simp [operate]

theorem operate_eq_taken_none_iff (d : Document) (operation : Operation) (text : String) :
    ctx.operate d operation text = .taken none ↔
      ∃ locate stop, operation = .replace locate stop ∧ ctx.locate? d locate stop = none := by
  cases operation with
  | insert anchor locate => by_cases hpresent : d.holdsLiteral text <;> simp [operate, hpresent]
  | replace locate stop =>
      simp only [operate, StepOutcome.taken.injEq, Option.map_eq_none_iff, Operation.replace.injEq]
      constructor
      · intro habsent
        exact ⟨locate, stop, ⟨rfl, rfl⟩, habsent⟩
      · rintro ⟨_, _, ⟨rfl, rfl⟩, habsent⟩
        exact habsent

theorem take_of_needed {d : Document} {step : EditStep}
    (hneeded : ctx.holds d step.condition = false) (htext : ctx.renderer.render step.text ≠ "") :
    ctx.take d step = ctx.operate d step.operation (ctx.renderer.render step.text) := by
  simp [take, hneeded, htext]

theorem take_of_holds {d : Document} {step : EditStep}
    (hholds : ctx.holds d step.condition = true) : ctx.take d step = .skipped := by
  simp [take, hholds]

theorem take_of_no_text {d : Document} {step : EditStep}
    (hneeded : ctx.holds d step.condition = false) (htext : ctx.renderer.render step.text = "") :
    ctx.take d step = .halted := by
  simp [take, hneeded, htext]

theorem take_eq_skipped_iff (d : Document) (step : EditStep) :
    ctx.take d step = .skipped ↔ ctx.holds d step.condition = true ∨ ctx.Repeats d step := by
  cases hneeded : ctx.holds d step.condition with
  | true => simp [ctx.take_of_holds hneeded]
  | false =>
      by_cases htext : ctx.renderer.render step.text = ""
      · rw [ctx.take_of_no_text hneeded htext]
        refine ⟨nofun, ?_⟩
        rintro (h | hrepeats)
        · cases h
        · exact absurd htext hrepeats.text
      · rw [ctx.take_of_needed hneeded htext, operate_eq_skipped_iff]
        constructor
        · rintro ⟨hinserts, hpresent⟩
          exact .inr ⟨hneeded, htext, hinserts, hpresent⟩
        · rintro (h | hrepeats)
          · cases h
          · exact ⟨hrepeats.inserts, hrepeats.present⟩

/-- The one step that counts as taken but makes no edit is a replacement that finds nothing. -/
theorem take_eq_taken_none_iff (d : Document) (step : EditStep) :
    ctx.take d step = .taken none ↔ ctx.Misses d step := by
  cases hneeded : ctx.holds d step.condition with
  | true =>
      rw [ctx.take_of_holds hneeded]
      refine ⟨nofun, fun hmisses => ?_⟩
      cases hneeded.symm.trans hmisses.needed
  | false =>
      by_cases htext : ctx.renderer.render step.text = ""
      · rw [ctx.take_of_no_text hneeded htext]
        exact ⟨nofun, fun hmisses => absurd htext hmisses.text⟩
      · rw [ctx.take_of_needed hneeded htext, operate_eq_taken_none_iff]
        exact ⟨fun habsent => ⟨hneeded, htext, habsent⟩, Misses.absent⟩

/-- A step that makes no edit gives way to the next one, unless it is a replacement with a
continuation that stops. -/
theorem advance_of_idle {d : Document} {step : EditStep} (htarget : ctx.target step = .ok d)
    (hidle : ctx.Idle d step) (edit : WorkspaceEdit) (rest : List EditStep) :
    ctx.advance ⟨edit, step :: rest⟩ = .onward ⟨edit, rest⟩ ↔
      ¬ (ctx.Misses d step ∧ ctx.stopsBehind d step rest ≠ none) := by
  by_cases hmisses : ctx.Misses d step
  · have htake := (ctx.take_eq_taken_none_iff d step).mpr hmisses
    cases hstop : ctx.stopsBehind d step rest <;>
      simp [advance, htarget, htake, hstop, queue, hmisses]
  · have htake : ctx.take d step = .skipped := by
      rw [take_eq_skipped_iff]
      rcases hidle with hholds | hrepeats | hmiss
      · exact .inl hholds
      · exact .inr hrepeats
      · exact absurd hmiss hmisses
    simp [advance, htarget, htake, hmisses]

/-- Whether a resolution comes, with no edit made by the steps before, to a replacement that finds
nothing and yet asks to apply the action again. -/
def AsksInVain (steps : List EditStep) : Prop :=
  ∃ step rest d, ctx.Reaches ⟨.empty, steps⟩ ⟨.empty, step :: rest⟩ ∧
    ctx.target step = .ok d ∧ ctx.Misses d step ∧ ctx.stopsBehind d step rest = some true

/-- A resolution stands before no edits until a step makes one, and before some ever after. -/
theorem Reaches.eq_empty_or_count_pos {ctx : StepContext} {steps : List EditStep} {t : Standing}
    (hreach : ctx.Reaches ⟨.empty, steps⟩ t) : t.edit = .empty ∨ 0 < t.edit.count := by
  refine hreach.induction (P := fun edit => edit = .empty ∨ 0 < edit.count) ?_ (.inl rfl)
  intro edit _ d made _ _ _ _
  exact .inr (WorkspaceEdit.count_push_pos edit d.path made)

theorem resolveFrom_progress_iff (steps : List EditStep) :
    (∀ r, ctx.resolveFrom .empty steps = .ok r → r.needsReapply = true → 0 < r.edit.count) ↔
      ¬ ctx.AsksInVain steps := by
  constructor
  · rintro hprogress ⟨step, rest, d, hreach, htarget, hmisses, hstop⟩
    have htake := (ctx.take_eq_taken_none_iff d step).mpr hmisses
    have hended : ctx.advance ⟨.empty, step :: rest⟩ = .ended ⟨.empty, true⟩ :=
      (ctx.advance_eq_ended_iff _ _).mpr
        (.inr ⟨step, rest, d, rfl, htarget, .inr ⟨none, true, htake, hstop, rfl⟩⟩)
    have hok := (ctx.resolveFrom_eq_ok_iff ⟨.empty, steps⟩ _).mpr ⟨_, hreach, hended⟩
    exact absurd (hprogress _ hok rfl) (by simp [WorkspaceEdit.count_empty])
  · intro hvain r hok hneeds
    obtain ⟨⟨edit, left⟩, hreach, hended⟩ := (ctx.resolveFrom_eq_ok_iff ⟨.empty, steps⟩ r).mp hok
    rcases (ctx.advance_eq_ended_iff _ r).mp hended with
      ⟨_, rfl⟩ | ⟨step, rest, d, hsteps, htarget, ⟨_, rfl⟩ | ⟨made, _, htake, hstop, rfl⟩⟩
    · cases hneeds
    · cases hneeds
    · simp only at hsteps hneeds
      subst hsteps hneeds
      cases made with
      | some e => exact WorkspaceEdit.count_push_pos edit d.path e
      | none =>
          rcases hreach.eq_empty_or_count_pos with hedit | hpos
          · simp only at hedit
            subst hedit
            have hmisses := (ctx.take_eq_taken_none_iff d step).mp htake
            exact absurd ⟨step, rest, d, hreach, htarget, hmisses, hstop⟩ hvain
          · exact hpos

end StepContext

namespace CandidateAction

/-- Whether resolving an action comes, with no edit made so far, to a replacement that finds nothing
and yet asks to apply the action again. -/
def AsksInVain (action : CandidateAction) (source : DocumentSource) : Prop :=
  ∃ active, source.active = some active ∧
    (action.context source active).AsksInVain action.rule.steps

/-- To be asked to apply an action again means that an edit was made, except behind a replacement
that finds nothing: no other step that makes no edit stops the steps behind it. -/
theorem resolveEdits_progress_iff (action : CandidateAction) (source : DocumentSource) :
    ((∀ r, action.resolveEdits source = .ok r → r.needsReapply = true → 0 < r.edit.count) ↔
      ¬ action.AsksInVain source) ∧
    ∀ active, source.active = some active →
      ∀ step d, (action.context source active).target step = .ok d →
        (action.context source active).Idle d step →
        ∀ edit rest,
          (action.context source active).advance ⟨edit, step :: rest⟩ = .onward ⟨edit, rest⟩ ↔
            ¬ ((action.context source active).Misses d step ∧
              (action.context source active).stopsBehind d step rest ≠ none) := by
  constructor
  · cases hactive : source.active with
    | none => simp [resolveEdits, AsksInVain, hactive]
    | some active =>
        have hprogress :=
          (action.context source active).resolveFrom_progress_iff action.rule.steps
        simp only [resolveEdits, hactive, hprogress, AsksInVain, Option.some.injEq,
          exists_eq_left']
  · intro active _ step d htarget hidle edit rest
    exact (action.context source active).advance_of_idle htarget hidle edit rest

end CandidateAction

namespace ContinuationWitness

def active : Document := ⟨⟨"/a"⟩, "rust", 0, []⟩

def other : Document := ⟨⟨"/b"⟩, "rust", 0, ['b']⟩

def source : DocumentSource :=
  ⟨some active, [active, other], DocumentSource.scan [active, other], fun _ => none⟩

def action (steps : List EditStep) : CandidateAction :=
  ⟨"t", "rust", active.path, ⟨"t", [], none, steps, none, true⟩, ⟨none, none⟩, {}, none⟩

/-- A replacement of what is not there, to be applied again. -/
def vain : EditStep := (EditStep.replace "b" "c").withContinuation .always

def vainContext : StepContext := (action [vain]).context source active

theorem target_vain : vainContext.target vain = .ok active := rfl

theorem take_vain : vainContext.take active vain = .taken none := by cbv

theorem resolveEdits_vain : (action [vain]).resolveEdits source = .ok ⟨.empty, true⟩ :=
  (vainContext.resolveFrom_eq_ok_iff ⟨.empty, [vain]⟩ _).mpr
    ⟨_, .refl, (vainContext.advance_eq_ended_iff _ _).mpr
      (.inr ⟨vain, [], active, rfl, target_vain, .inr ⟨none, true, take_vain, rfl, rfl⟩⟩)⟩

/-- An action that asks to be applied again may have no edit. -/
theorem not_progress_vain :
    ¬ ∀ action source r, CandidateAction.resolveEdits action source = .ok r →
      r.needsReapply = true → 0 < r.edit.count := by
  intro hprogress
  have hpos := hprogress _ _ _ resolveEdits_vain rfl
  simp [WorkspaceEdit.count_empty] at hpos

/-- The replacement as a case: it makes no edit, and yet the resolution does not go on behind it. -/
theorem progress_vain :
    (action [vain]).AsksInVain source ∧ vainContext.Idle active vain ∧
      vainContext.advance ⟨.empty, [vain]⟩ ≠ .onward ⟨.empty, []⟩ := by
  obtain ⟨hprogress, hgoes⟩ := CandidateAction.resolveEdits_progress_iff (action [vain]) source
  have hmisses : vainContext.Misses active vain :=
    (vainContext.take_eq_taken_none_iff active vain).mp take_vain
  have hidle : vainContext.Idle active vain := .inr (.inr hmisses)
  refine ⟨?_, hidle, ?_⟩
  · by_contra hvain
    have hpos := hprogress.mpr hvain _ resolveEdits_vain rfl
    simp [WorkspaceEdit.count_empty] at hpos
  · intro hpasses
    exact (hgoes active rfl vain active target_vain hidle .empty []).mp hpasses
      ⟨hmisses, by simp [StepContext.stopsBehind, vain, EditStep.withContinuation,
        EditStep.effectiveContinuation]⟩

end ContinuationWitness

/-- A resolution at a step that makes an edit and whose continuation looks ahead, with the documents
of that step and of the next one. -/
structure LookAhead (action : CandidateAction) (source : DocumentSource) where
  active : Document
  edit : WorkspaceEdit
  step : EditStep
  next : EditStep
  rest : List EditStep
  here : Document
  ahead : Document
  made : TextEdit
  active_eq : source.active = some active
  reached : (action.context source active).Reaches ⟨.empty, action.rule.steps⟩
    ⟨edit, step :: next :: rest⟩
  looks : step.effectiveContinuation = some .onNextConditionFailure
  target_step : (action.context source active).target step = .ok here
  take_step : (action.context source active).take here step = .taken (some made)
  target_next : (action.context source active).target next = .ok ahead

namespace LookAhead

variable {action : CandidateAction} {source : DocumentSource} (l : LookAhead action source)

def ctx : StepContext := action.context source l.active

def standing : Standing := ⟨l.edit, l.step :: l.next :: l.rest⟩

/-- The edits once that of the step is queued. -/
def edited : WorkspaceEdit := l.edit.push l.here.path l.made

/-- Whether the resolution ends behind the step and asks to apply the action again. -/
def Halts : Prop := l.ctx.advance l.standing = .ended ⟨l.edited, true⟩

/-- Whether the next step, once it is reached, is not needed. -/
def Skips : Prop := l.ctx.holds l.ahead l.next.condition = true

/-- Whether the condition of the next step holds where the step was taken. -/
def HoldsHere : Prop := l.ctx.holds l.here l.next.condition = true

theorem advance_eq :
    l.ctx.advance l.standing =
      if l.ctx.holds l.here l.next.condition then .onward ⟨l.edited, l.next :: l.rest⟩
      else .ended ⟨l.edited, true⟩ := by
  have htarget : l.ctx.target l.step = .ok l.here := l.target_step
  have htake : l.ctx.take l.here l.step = .taken (some l.made) := l.take_step
  simp only [standing, StepContext.advance, htarget, htake, StepContext.stopsBehind, l.looks,
    StepContext.queue]
  by_cases hhere : l.ctx.holds l.here l.next.condition = true
  · simp [hhere, edited]
  · simp [hhere, edited]

theorem halts_iff : l.Halts ↔ ¬ l.HoldsHere := by
  simp only [Halts, HoldsHere, advance_eq]
  by_cases hhere : l.ctx.holds l.here l.next.condition = true
  · simp [hhere]
  · simp [hhere]

theorem passes_of_holdsHere (hhere : l.HoldsHere) :
    l.ctx.Passes l.standing ⟨l.edited, l.next :: l.rest⟩ := by
  rw [StepContext.Passes, advance_eq]
  exact if_pos hhere

theorem resolveEdits_of_halts (hhalts : l.Halts) :
    action.resolveEdits source = .ok ⟨l.edited, true⟩ := by
  rw [CandidateAction.resolveEdits, l.active_eq]
  exact (StepContext.resolveFrom_eq_ok_iff _ ⟨.empty, action.rule.steps⟩ _).mpr
    ⟨l.standing, l.reached, hhalts⟩

theorem passes_of_skips (hskips : l.Skips) :
    l.ctx.Passes ⟨l.edited, l.next :: l.rest⟩ ⟨l.edited, l.rest⟩ :=
  (StepContext.passes_iff l.ctx _ _).mpr
    ⟨l.next, l.ahead, rfl, l.target_next, .inl ⟨l.ctx.take_of_holds hskips, rfl⟩⟩

/-- A continuation that looks ahead stops exactly if the condition of the next step does not hold in
the document of the step that was taken. So it stops exactly if the next step is needed when, and
only when, that condition fares the same in the document of the next step. -/
theorem foresees_iff (l : LookAhead action source) :
    (l.Halts ↔ ¬ l.HoldsHere) ∧
      ((l.Halts ↔ ¬ l.Skips) ↔ (l.HoldsHere ↔ l.Skips)) ∧
      (l.Halts → action.resolveEdits source = .ok ⟨l.edited, true⟩) ∧
      (¬ l.Halts → l.ctx.Passes l.standing ⟨l.edited, l.next :: l.rest⟩) ∧
      (l.Skips → l.ctx.Passes ⟨l.edited, l.next :: l.rest⟩ ⟨l.edited, l.rest⟩) := by
  refine ⟨l.halts_iff, ?_, l.resolveEdits_of_halts, ?_, l.passes_of_skips⟩
  · rw [halts_iff, not_iff_not]
  · intro hgoes
    rw [halts_iff, not_not] at hgoes
    exact l.passes_of_holdsHere hgoes

end LookAhead

namespace ContinuationWitness

def imports : EditStep := (EditStep.insert "a").withContinuation .onNextConditionFailure

/-- A step that the other document does not need. -/
def importsOther : EditStep := ((EditStep.insert "b").inFile "b").unlessFound ["b"] none

def steps : List EditStep := [imports, importsOther]

def context : StepContext := (action steps).context source active

theorem take_imports : context.take active imports = .taken (some (.insert ⟨0, 0⟩ "a")) := by cbv

theorem target_importsOther : context.target importsOther = .ok other := by cbv

theorem holds_other : context.holds other importsOther.condition = true := by cbv

theorem holds_active : context.holds active importsOther.condition = false := by cbv

def twoFiles : LookAhead (action steps) source where
  active := active
  edit := .empty
  step := imports
  next := importsOther
  rest := []
  here := active
  ahead := other
  made := .insert ⟨0, 0⟩ "a"
  active_eq := rfl
  reached := .refl
  looks := rfl
  target_step := rfl
  take_step := take_imports
  target_next := target_importsOther

/-- A continuation that looks ahead may stop before a step that is not needed. -/
theorem not_foresees_twoFiles :
    ¬ ∀ action source (l : LookAhead action source), l.Halts ↔ ¬ l.Skips := by
  intro hforesees
  have hhalts : twoFiles.Halts :=
    twoFiles.halts_iff.mpr fun hhere => nomatch holds_active.symm.trans hhere
  exact (hforesees _ _ twoFiles).mp hhalts holds_other

/-- The two files as a case: the action asks to be applied again, for a step that is not needed. -/
theorem foresees_twoFiles :
    (action steps).resolveEdits source = .ok ⟨twoFiles.edited, true⟩ ∧ twoFiles.Skips := by
  obtain ⟨hhalts, _, hresolved, _, _⟩ := twoFiles.foresees_iff
  exact ⟨hresolved (hhalts.mpr fun hhere => nomatch holds_active.symm.trans hhere), holds_other⟩

end ContinuationWitness

end QuickFix
