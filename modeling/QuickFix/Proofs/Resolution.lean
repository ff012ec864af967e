import Mathlib.Logic.Relation
import QuickFix.Action.Resolve
import QuickFix.Proofs.WorkspaceEdit

/-!
Resolution as a machine. It stands before the steps that are left, with the edits queued so far, and
one advance looks at the first of these steps: it fails, it ends the resolution, or it goes on to
the next step. What holds of every advance holds of the whole resolution.
-/

namespace QuickFix

/-- Where a resolution stands: the edits queued so far and the steps that are left. -/
structure Standing where
  edit : WorkspaceEdit
  steps : List EditStep

/-- What an advance comes to. -/
inductive Advance where
  | failed (error : ResolveError)
  | ended (resolved : ResolvedEdits)
  | onward (standing : Standing)

namespace StepContext

/-- Looks at the first of the steps that are left. -/
def advance (ctx : StepContext) (s : Standing) : Advance :=
  match s.steps with
  | [] => .ended ⟨s.edit, false⟩
  | step :: rest =>
    match ctx.target step with
    | .error e => .failed e
    | .ok d =>
      match ctx.take d step with
      | .skipped => .onward ⟨s.edit, rest⟩
      | .halted => .ended ⟨s.edit, false⟩
      | .taken made =>
        match ctx.stopsBehind d step rest with
        | some needsReapply => .ended ⟨queue s.edit d made, needsReapply⟩
        | none => .onward ⟨queue s.edit d made, rest⟩

/-- One advance that goes on. -/
def Passes (ctx : StepContext) (s t : Standing) : Prop := ctx.advance s = .onward t

/-- Any number of advances that go on. -/
def Reaches (ctx : StepContext) : Standing → Standing → Prop := Relation.ReflTransGen ctx.Passes

/-- Resolution is what the advances come to. -/
theorem resolveFrom_eq_advance (ctx : StepContext) (s : Standing) :
    ctx.resolveFrom s.edit s.steps =
      match ctx.advance s with
      | .failed e => .error e
      | .ended r => .ok r
      | .onward t => ctx.resolveFrom t.edit t.steps := by
  obtain ⟨edit, steps⟩ := s
  cases steps with
  | nil => rfl
  | cons step rest =>
      simp only [resolveFrom, advance]
      cases ctx.target step with
      | error e => rfl
      | ok d =>
          simp only
          cases ctx.take d step with
          | skipped => rfl
          | halted => rfl
          | taken made =>
              simp only
              cases ctx.stopsBehind d step rest <;> rfl

/-- All that an advance that goes on can have done: it leaves the step it looked at behind, and
either skipped it or queued what it made. -/
theorem passes_iff (ctx : StepContext) (s t : Standing) :
    ctx.Passes s t ↔
      ∃ step d, s.steps = step :: t.steps ∧ ctx.target step = .ok d ∧
        (ctx.take d step = .skipped ∧ t.edit = s.edit ∨
          ∃ made, ctx.take d step = .taken made ∧
            ctx.stopsBehind d step t.steps = none ∧ t.edit = queue s.edit d made) := by
  obtain ⟨edit, steps⟩ := s
  obtain ⟨edit', steps'⟩ := t
  constructor
  · intro hpass
    cases steps with
    | nil => simp [Passes, advance] at hpass
    | cons step rest =>
        simp only [Passes, advance] at hpass
        cases htarget : ctx.target step with
        | error e => simp [htarget] at hpass
        | ok d =>
            simp only [htarget] at hpass
            cases htake : ctx.take d step with
            | skipped =>
                simp only [htake, Advance.onward.injEq, Standing.mk.injEq] at hpass
                obtain ⟨rfl, rfl⟩ := hpass
                exact ⟨step, d, rfl, htarget, .inl ⟨htake, rfl⟩⟩
            | halted => simp [htake] at hpass
            | taken made =>
                simp only [htake] at hpass
                cases hstop : ctx.stopsBehind d step rest with
                | some b => simp [hstop] at hpass
                | none =>
                    simp only [hstop, Advance.onward.injEq, Standing.mk.injEq] at hpass
                    obtain ⟨rfl, rfl⟩ := hpass
                    exact ⟨step, d, rfl, htarget, .inr ⟨made, htake, hstop, rfl⟩⟩
  · rintro ⟨step, d, hsteps, htarget, hcase⟩
    simp only at hsteps hcase
    subst hsteps
    rcases hcase with ⟨htake, rfl⟩ | ⟨made, htake, hstop, rfl⟩
    · simp only [Passes, advance, htarget, htake]
    · simp only [Passes, advance, htarget, htake, hstop]

/-- All that can end a resolution well: no step is left, a step has no text, or a step was taken and
its continuation stops. -/
theorem advance_eq_ended_iff (ctx : StepContext) (s : Standing) (r : ResolvedEdits) :
    ctx.advance s = .ended r ↔
      s.steps = [] ∧ r = ⟨s.edit, false⟩ ∨
        ∃ step rest d, s.steps = step :: rest ∧ ctx.target step = .ok d ∧
          (ctx.take d step = .halted ∧ r = ⟨s.edit, false⟩ ∨
            ∃ made needsReapply, ctx.take d step = .taken made ∧
              ctx.stopsBehind d step rest = some needsReapply ∧
              r = ⟨queue s.edit d made, needsReapply⟩) := by
  obtain ⟨edit, steps⟩ := s
  constructor
  · intro hended
    cases steps with
    | nil =>
        simp only [advance, Advance.ended.injEq] at hended
        exact .inl ⟨rfl, hended.symm⟩
    | cons step rest =>
        simp only [advance] at hended
        cases htarget : ctx.target step with
        | error e => simp [htarget] at hended
        | ok d =>
            refine .inr ⟨step, rest, d, rfl, htarget, ?_⟩
            simp only [htarget] at hended
            cases htake : ctx.take d step with
            | skipped => simp [htake] at hended
            | halted =>
                simp only [htake, Advance.ended.injEq] at hended
                exact .inl ⟨rfl, hended.symm⟩
            | taken made =>
                simp only [htake] at hended
                cases hstop : ctx.stopsBehind d step rest with
                | none => simp [hstop] at hended
                | some needsReapply =>
                    simp only [hstop, Advance.ended.injEq] at hended
                    exact .inr ⟨made, needsReapply, rfl, rfl, hended.symm⟩
  · rintro (⟨hsteps, rfl⟩ | ⟨step, rest, d, hsteps, htarget, hcase⟩)
    · simp only at hsteps
      subst hsteps
      rfl
    · simp only at hsteps
      subst hsteps
      rcases hcase with ⟨htake, rfl⟩ | ⟨made, needsReapply, htake, hstop, rfl⟩
      · simp only [advance, htarget, htake]
      · simp only [advance, htarget, htake, hstop]

/-- All that can fail a resolution: the document of the next step cannot be told. -/
theorem advance_eq_failed_iff (ctx : StepContext) (s : Standing) (e : ResolveError) :
    ctx.advance s = .failed e ↔
      ∃ step rest, s.steps = step :: rest ∧ ctx.target step = .error e := by
  obtain ⟨edit, steps⟩ := s
  constructor
  · intro hfailed
    cases steps with
    | nil => simp [advance] at hfailed
    | cons step rest =>
        simp only [advance] at hfailed
        cases htarget : ctx.target step with
        | error e' =>
            simp only [htarget, Advance.failed.injEq] at hfailed
            exact ⟨step, rest, rfl, hfailed ▸ htarget⟩
        | ok d =>
            simp only [htarget] at hfailed
            cases htake : ctx.take d step with
            | skipped => simp [htake] at hfailed
            | halted => simp [htake] at hfailed
            | taken made =>
                simp only [htake] at hfailed
                cases hstop : ctx.stopsBehind d step rest <;> simp [hstop] at hfailed
  · rintro ⟨step, rest, hsteps, htarget⟩
    simp only at hsteps
    subst hsteps
    simp only [advance, htarget]

/-- The steps that are left when a standing is reached are the last of those there were. -/
theorem Reaches.steps {ctx : StepContext} {s t : Standing} (hreach : ctx.Reaches s t) :
    t.steps <:+ s.steps := by
  induction hreach with
  | refl => exact List.suffix_refl _
  | tail _ hpass ih =>
      obtain ⟨step, _, hsteps, _⟩ := (passes_iff ctx _ _).mp hpass
      exact List.IsSuffix.trans (hsteps ▸ List.suffix_cons step _) ih

theorem Reaches.resolveFrom_eq {ctx : StepContext} {s t : Standing} (hreach : ctx.Reaches s t) :
    ctx.resolveFrom s.edit s.steps = ctx.resolveFrom t.edit t.steps := by
  induction hreach with
  | refl => rfl
  | tail _ hpass ih =>
      rw [ih, resolveFrom_eq_advance, hpass]

/-- Every resolution reaches a standing where it does not go on: each advance takes a step away. -/
theorem exists_reaches_last (ctx : StepContext) (s : Standing) :
    ∃ t, ctx.Reaches s t ∧ ∀ u, ¬ ctx.Passes t u := by
  obtain ⟨edit, steps⟩ := s
  induction steps generalizing edit with
  | nil => exact ⟨⟨edit, []⟩, .refl, fun u hpass => by simp [Passes, advance] at hpass⟩
  | cons step rest ih =>
      by_cases hpasses : ∃ u, ctx.Passes ⟨edit, step :: rest⟩ u
      · obtain ⟨u, hpass⟩ := hpasses
        obtain ⟨_, _, hsteps, _⟩ := (passes_iff ctx _ u).mp hpass
        obtain ⟨t, hreach, hlast⟩ := ih u.edit
        rw [(List.cons.inj hsteps).2] at hreach
        exact ⟨t, .head hpass hreach, hlast⟩
      · exact ⟨_, .refl, not_exists.mp hpasses⟩

/-- A resolution succeeds with exactly what ends it at a standing that it reaches. -/
theorem resolveFrom_eq_ok_iff (ctx : StepContext) (s : Standing) (r : ResolvedEdits) :
    ctx.resolveFrom s.edit s.steps = .ok r ↔
      ∃ t, ctx.Reaches s t ∧ ctx.advance t = .ended r := by
  constructor
  · intro hok
    obtain ⟨t, hreach, hlast⟩ := exists_reaches_last ctx s
    rw [hreach.resolveFrom_eq, resolveFrom_eq_advance] at hok
    cases hadvance : ctx.advance t with
    | failed e => simp [hadvance] at hok
    | ended r' =>
        simp only [hadvance, Except.ok.injEq] at hok
        exact ⟨t, hreach, hok ▸ hadvance⟩
    | onward u => exact absurd hadvance (hlast u)
  · rintro ⟨t, hreach, hended⟩
    rw [hreach.resolveFrom_eq, resolveFrom_eq_advance, hended]

/-- A resolution fails with exactly what an advance fails with at a standing that it reaches. -/
theorem resolveFrom_eq_error_iff (ctx : StepContext) (s : Standing) (e : ResolveError) :
    ctx.resolveFrom s.edit s.steps = .error e ↔
      ∃ t, ctx.Reaches s t ∧ ctx.advance t = .failed e := by
  constructor
  · intro herror
    obtain ⟨t, hreach, hlast⟩ := exists_reaches_last ctx s
    rw [hreach.resolveFrom_eq, resolveFrom_eq_advance] at herror
    cases hadvance : ctx.advance t with
    | failed e' =>
        simp only [hadvance, Except.error.injEq] at herror
        exact ⟨t, hreach, herror ▸ hadvance⟩
    | ended r => simp [hadvance] at herror
    | onward u => exact absurd hadvance (hlast u)
  · rintro ⟨t, hreach, hfailed⟩
    rw [hreach.resolveFrom_eq, resolveFrom_eq_advance, hfailed]

theorem queue_of_push {P : WorkspaceEdit → Prop} {d : Document} {made : Option TextEdit}
    {edit : WorkspaceEdit} (hpush : ∀ e, made = some e → P (edit.push d.path e)) (hedit : P edit) :
    P (queue edit d made) := by
  cases made with
  | none => exact hedit
  | some e => exact hpush e rfl

/-- What holds of the edits at a standing, and is kept whenever a step that is left makes an edit,
holds of the edits at every standing that is reached. -/
theorem Reaches.induction {ctx : StepContext} {s t : Standing} {P : WorkspaceEdit → Prop}
    (hreach : ctx.Reaches s t)
    (hpush : ∀ edit step d made, step ∈ s.steps → ctx.target step = .ok d →
      ctx.take d step = .taken (some made) → P edit → P (edit.push d.path made))
    (hstart : P s.edit) : P t.edit := by
  induction hreach with
  | refl => exact hstart
  | tail hbefore hpass ih =>
      obtain ⟨step, d, hsteps, htarget, hcase⟩ := (passes_iff ctx _ _).mp hpass
      have hstep : step ∈ s.steps :=
        (Reaches.steps hbefore).subset (hsteps ▸ List.mem_cons_self)
      rcases hcase with ⟨_, hedit⟩ | ⟨made, htake, _, hedit⟩
      · exact hedit ▸ ih
      · rw [hedit]
        exact queue_of_push (fun e he => hpush _ step d e hstep htarget (he ▸ htake) ih) ih

/-- What holds of the edits at a standing, and is kept whenever a step that is left makes an edit,
holds of the edits that the resolution ends with. -/
theorem resolveFrom_induction {ctx : StepContext} {s : Standing} {P : WorkspaceEdit → Prop}
    (hpush : ∀ edit step d made, step ∈ s.steps → ctx.target step = .ok d →
      ctx.take d step = .taken (some made) → P edit → P (edit.push d.path made))
    (hstart : P s.edit) {r : ResolvedEdits} (hok : ctx.resolveFrom s.edit s.steps = .ok r) :
    P r.edit := by
  obtain ⟨t, hreach, hended⟩ := (resolveFrom_eq_ok_iff ctx s r).mp hok
  have hreached : P t.edit := hreach.induction hpush hstart
  rcases (advance_eq_ended_iff ctx t r).mp hended with
    ⟨_, rfl⟩ | ⟨step, rest, d, hsteps, htarget, ⟨_, rfl⟩ | ⟨made, _, htake, _, rfl⟩⟩
  · exact hreached
  · exact hreached
  · have hstep : step ∈ s.steps := hreach.steps.subset (hsteps ▸ List.mem_cons_self)
    exact queue_of_push
      (fun e he => hpush _ step d e hstep htarget (he ▸ htake) hreached) hreached

/-- The document of a step is the active one or one that was found. -/
theorem target_offered {ctx : StepContext} {step : EditStep} {d : Document}
    (htarget : ctx.target step = .ok d) :
    d = ctx.active ∨ ∃ path, ctx.source.find? path = some d := by
  unfold target at htarget
  split at htarget
  · exact .inl (Except.ok.inj htarget).symm
  · split at htarget
    · cases htarget
    · rename_i path _
      split at htarget
      · rename_i found hfound
        exact .inr ⟨path, hfound.trans (congrArg some (Except.ok.inj htarget))⟩
      · cases htarget

/-- Whether one of some steps makes an edit, and does so in the document at some components. -/
def Makes (ctx : StepContext) (steps : List EditStep) (k : List Component) (made : TextEdit) :
    Prop :=
  ∃ step ∈ steps, ∃ d, ctx.target step = .ok d ∧ d.path.components = k ∧
    ctx.take d step = .taken (some made)

end StepContext

/-- Whether a source can hand out a document. -/
def DocumentSource.Offers (source : DocumentSource) (d : Document) : Prop :=
  source.active = some d ∨ ∃ path, source.find? path = some d

namespace CandidateAction

/-- A resolution queues edits one after the other, each for a document that the source offers. -/
theorem resolveEdits_induction {action : CandidateAction} {source : DocumentSource}
    {P : WorkspaceEdit → Prop} (hempty : P .empty)
    (hpush : ∀ edit d made, source.Offers d → P edit → P (edit.push d.path made))
    {r : ResolvedEdits} (hok : action.resolveEdits source = .ok r) : P r.edit := by
  unfold resolveEdits at hok
  split at hok
  · cases hok
  · rename_i active hactive
    refine StepContext.resolveFrom_induction (s := ⟨.empty, action.rule.steps⟩) ?_ hempty hok
    intro edit step d made _ htarget _ hedit
    apply hpush edit d made _ hedit
    rcases StepContext.target_offered htarget with rfl | hfound
    · exact .inl hactive
    · exact .inr hfound

/-- Every edit of a resolution was made by a step in the document where the edit goes. -/
theorem resolveEdits_makes {action : CandidateAction} {source : DocumentSource}
    {active : Document} (hactive : source.active = some active) {r : ResolvedEdits}
    (hok : action.resolveEdits source = .ok r) {k : List Component} {file : FileEdits}
    (hfile : r.edit.changes[k]? = some file) {made : TextEdit} (hmade : made ∈ file.edits) :
    (action.context source active).Makes action.rule.steps k made := by
  simp only [resolveEdits, hactive] at hok
  refine StepContext.resolveFrom_induction (s := ⟨.empty, action.rule.steps⟩)
    (P := fun edit => ∀ (k : List Component) file, edit.changes[k]? = some file →
      ∀ made ∈ file.edits, (action.context source active).Makes action.rule.steps k made)
    ?_ ?_ hok k file hfile made hmade
  · intro edit step d new hstep htarget htake hedit k file hfile made hmade
    rw [WorkspaceEdit.getElem?_push] at hfile
    by_cases hk : d.path.components = k
    · rw [if_pos hk] at hfile
      have hnew : made = new → (action.context source active).Makes action.rule.steps k made := by
        rintro rfl
        exact ⟨step, hstep, d, htarget, hk, htake⟩
      cases hold : edit.changes[k]? with
      | none =>
          simp only [hold, Option.some.injEq] at hfile
          subst hfile
          exact hnew (List.mem_singleton.mp hmade)
      | some old =>
          simp only [hold, Option.some.injEq] at hfile
          subst hfile
          rcases List.mem_append.mp hmade with hbefore | hlast
          · exact hedit k old hold made hbefore
          · exact hnew (List.mem_singleton.mp hlast)
    · rw [if_neg hk] at hfile
      exact hedit k file hfile made hmade
  · intro k file hfile
    simp [WorkspaceEdit.empty] at hfile

theorem resolveEdits_wellFormed {action : CandidateAction} {source : DocumentSource}
    {r : ResolvedEdits} (hok : action.resolveEdits source = .ok r) : r.edit.WellFormed :=
  resolveEdits_induction WorkspaceEdit.empty_wellFormed
    (fun _ d made _ hedit => WorkspaceEdit.push_wellFormed hedit d.path made) hok

/-- Every path that a resolution edits is that of a document the source offers. -/
theorem resolveEdits_offered {action : CandidateAction} {source : DocumentSource}
    {r : ResolvedEdits} (hok : action.resolveEdits source = .ok r) {k : List Component}
    {file : FileEdits} (hfile : r.edit.changes[k]? = some file) :
    ∃ d, source.Offers d ∧ d.path.components = k := by
  have hall : ∀ (k : List Component) (file : FileEdits), r.edit.changes[k]? = some file →
      ∃ d, source.Offers d ∧ d.path.components = k := by
    refine resolveEdits_induction
      (P := fun edit => ∀ (k : List Component) (file : FileEdits),
        edit.changes[k]? = some file → ∃ d, source.Offers d ∧ d.path.components = k) ?_ ?_ hok
    · intro k file hfile
      simp [WorkspaceEdit.empty] at hfile
    · intro edit d made hoffer hedit k file hfile
      rw [WorkspaceEdit.getElem?_push] at hfile
      by_cases hk : d.path.components = k
      · exact ⟨d, hoffer, hk⟩
      · rw [if_neg hk] at hfile
        exact hedit k file hfile
  exact hall k file hfile

end CandidateAction

end QuickFix
