import Mathlib
import QuickFix.Proofs.Continuation
import QuickFix.Proofs.Insertion
import QuickFix.Proofs.Invocation

/-!
Invocations of actions that only insert lines. What such an action inserts stays, and each
invocation that makes an edit puts the text of some step where it was not before. So the steps whose
text is there become more with each such invocation, and there cannot be more of these invocations
than steps.
-/

namespace QuickFix

/-- Whether a text has no breaks, a line feed at its end left away. -/
def SingleLine (text : String) : Prop := ∀ c ∈ Document.needle text, Text.isBreak c = false

namespace Document

/-- Whether a document, under the same path, still holds all that it held on single lines. -/
structure Grows (before after : Document) : Prop where
  path : after.path = before.path
  holds : ∀ text, SingleLine text → before.holdsLiteral text = true →
    after.holdsLiteral text = true

theorem Grows.refl (d : Document) : d.Grows d := ⟨rfl, fun _ _ hholds => hholds⟩

theorem Grows.trans {a b c : Document} (hab : a.Grows b) (hbc : b.Grows c) : a.Grows c where
  path := hbc.path.trans hab.path
  holds text hline hholds := hbc.holds text hline (hab.holds text hline hholds)

theorem applyEdits_grows (d : Document) {edits : List TextEdit}
    (hedits : ∀ edit ∈ edits, edit.BeforeLine) : d.Grows (d.applyEdits edits).1 where
  path := rfl
  holds text hline hholds := by
    rw [holdsLiteral_iff] at hholds ⊢
    exact infix_applyEdits hedits hline hholds

end Document

namespace Workspace

/-- Whether a workspace still has the same documents open, each of them grown. -/
structure Grows (before after : Workspace) : Prop where
  active : after.active = before.active
  roots : after.roots = before.roots
  kept : ∀ path d, before.document? path = some d →
    ∃ grown, after.document? path = some grown ∧ d.Grows grown
  closed : ∀ path, before.document? path = none → after.document? path = none

theorem Grows.refl (w : Workspace) : w.Grows w where
  active := rfl
  roots := rfl
  kept _ d hd := ⟨d, hd, .refl d⟩
  closed _ hnone := hnone

theorem Grows.trans {a b c : Workspace} (hab : a.Grows b) (hbc : b.Grows c) : a.Grows c where
  active := hbc.active.trans hab.active
  roots := hbc.roots.trans hab.roots
  kept path d hd := by
    obtain ⟨middle, hmiddle, hfirst⟩ := hab.kept path d hd
    obtain ⟨last, hlast, hsecond⟩ := hbc.kept path middle hmiddle
    exact ⟨last, hlast, hfirst.trans hsecond⟩
  closed path hnone := hbc.closed path (hab.closed path hnone)

variable {w w' : Workspace}

theorem Grows.activeDocument? (hgrows : w.Grows w') {active : Document}
    (hactive : w.activeDocument? = some active) :
    ∃ grown, w'.activeDocument? = some grown ∧ active.Grows grown := by
  obtain ⟨path, hpath, hd⟩ := Option.bind_eq_some_iff.mp hactive
  obtain ⟨grown, hgrown, hdoc⟩ := hgrows.kept path active hd
  exact ⟨grown, Option.bind_eq_some_iff.mpr ⟨path, hgrows.active.trans hpath, hgrown⟩, hdoc⟩

theorem Grows.exists_activeDocument? (hgrows : w.Grows w') {grown : Document}
    (hactive : w'.activeDocument? = some grown) :
    ∃ active, w.activeDocument? = some active ∧ grown.path = active.path := by
  cases hbefore : w.activeDocument? with
  | some active =>
      obtain ⟨grown', hgrown', hdoc⟩ := hgrows.activeDocument? hbefore
      obtain rfl := Option.some.inj (hactive.symm.trans hgrown')
      exact ⟨active, rfl, hdoc.path⟩
  | none =>
      obtain ⟨path, hpath, hd⟩ := Option.bind_eq_some_iff.mp hactive
      rw [hgrows.active] at hpath
      have hnone : w.document? path = none := by
        rw [Workspace.activeDocument?, hpath] at hbefore
        exact hbefore
      rw [hgrows.closed path hnone] at hd
      cases hd

theorem reference_eq (hroots : w'.roots = w.roots) {active active' : Document}
    (hpath : active'.path = active.path) (reference : String) :
    w'.source.reference active' reference = w.source.reference active reference := by
  simp only [DocumentSource.reference, source, root?, hroots, hpath]

end Workspace

namespace CandidateAction

open Workspace (Grows)

variable {action : CandidateAction} {w w' : Workspace}

/-- A step goes to the document at some path, whatever becomes of the documents meanwhile. -/
theorem exists_path_of_target {active d : Document} {step : EditStep}
    (hactive : w.activeDocument? = some active)
    (htarget : (action.context w.source active).target step = .ok d) :
    ∃ path, w.document? path = some d ∧
      ∀ (later : Workspace) active', later.active = w.active → later.roots = w.roots →
        later.activeDocument? = some active' → active'.path = active.path →
          ∀ d', later.document? path = some d' →
            (action.context later.source active').target step = .ok d' := by
  obtain ⟨activePath, hpath, hopen⟩ := Option.bind_eq_some_iff.mp hactive
  simp only [StepContext.target, context] at htarget
  split at htarget
  · rename_i hnone
    obtain rfl := Except.ok.inj htarget
    refine ⟨activePath, hopen, ?_⟩
    intro later active' hsame _ hactive' hpath' d' hd'
    have hactivePath : later.active = some activePath := hsame.trans hpath
    rw [Workspace.activeDocument?, hactivePath, Option.bind_some, hd'] at hactive'
    obtain rfl := Option.some.inj hactive'
    simp only [StepContext.target, context, hpath', hnone]
  · rename_i reference hreference
    split at htarget
    · cases htarget
    · rename_i path hresolved
      split at htarget
      · rename_i found hfound
        obtain rfl := Except.ok.inj htarget
        refine ⟨path, hfound, ?_⟩
        intro later active' _ hroots _ hpath' d' hd'
        have hresolved' : later.source.reference active' reference = .ok path :=
          (Workspace.reference_eq hroots hpath' reference).trans hresolved
        have hfound' : later.source.find? path = some d' := hd'
        simp only [StepContext.target, context, hpath', hreference, hresolved', hfound']
      · cases htarget

/-- Whether the text of a step, a line feed at its end left away, stands in the document where the
step goes. -/
def Present (action : CandidateAction) (w : Workspace) (step : EditStep) : Prop :=
  ∃ active d, w.activeDocument? = some active ∧
    (action.context w.source active).target step = .ok d ∧
    d.holdsLiteral ((action.context w.source active).renderer.render step.text) = true

/-- Whether an action only inserts texts that have no breaks, line feeds at their ends left away. -/
def InsertsLines (action : CandidateAction) (w : Workspace) : Prop :=
  ∀ active, w.activeDocument? = some active → ∀ step ∈ action.rule.steps,
    (∃ anchor locate, step.operation = .insert anchor locate) ∧
      SingleLine ((action.context w.source active).renderer.render step.text)

theorem renderer_context_eq (source source' : DocumentSource) {active active' : Document}
    (hpath : active'.path = active.path) :
    (action.context source' active').renderer = (action.context source active).renderer := by
  simp only [context, hpath]

theorem InsertsLines.grows (hinserts : action.InsertsLines w) (hgrows : w.Grows w') :
    action.InsertsLines w' := by
  intro active' hactive' step hstep
  obtain ⟨active, hactive, hpath⟩ := hgrows.exists_activeDocument? hactive'
  rw [renderer_context_eq w.source w'.source hpath]
  exact hinserts active hactive step hstep

/-- What an action has inserted stays where it is. -/
theorem Present.grows (hinserts : action.InsertsLines w) (hgrows : w.Grows w') {step : EditStep}
    (hstep : step ∈ action.rule.steps) (hpresent : action.Present w step) :
    action.Present w' step := by
  obtain ⟨active, d, hactive, htarget, hholds⟩ := hpresent
  obtain ⟨path, hd, hsame⟩ := exists_path_of_target hactive htarget
  obtain ⟨d', hd', hdgrows⟩ := hgrows.kept path d hd
  obtain ⟨active', hactive', hactiveGrows⟩ := hgrows.activeDocument? hactive
  refine ⟨active', d', hactive', ?_, ?_⟩
  · exact hsame w' active' hgrows.active hgrows.roots hactive' hactiveGrows.path d' hd'
  · rw [renderer_context_eq w.source w'.source hactiveGrows.path]
    exact hdgrows.holds _ (hinserts active hactive step hstep).2 hholds

theorem exists_active_of_resolveEdits {source : DocumentSource} {r : ResolvedEdits}
    (hok : action.resolveEdits source = .ok r) : ∃ active, source.active = some active := by
  cases hactive : source.active with
  | none => simp [resolveEdits, hactive] at hok
  | some active => exact ⟨active, rfl⟩

/-- Every edit of an action that only inserts lines puts the text of a step where it is not yet. -/
theorem InsertsLines.exists_insertion (hinserts : action.InsertsLines w) {r : ResolvedEdits}
    (hok : action.resolveEdits w.source = .ok r) {k : List Component} {file : FileEdits}
    (hfile : r.edit.changes[k]? = some file) {made : TextEdit} (hmade : made ∈ file.edits) :
    ∃ active, w.activeDocument? = some active ∧
      ∃ step ∈ action.rule.steps, ∃ d, (action.context w.source active).target step = .ok d ∧
        d.path.components = k ∧
        d.holdsLiteral ((action.context w.source active).renderer.render step.text) = false ∧
        ∃ line, made = StepContext.insertion d line
          ((action.context w.source active).renderer.render step.text) := by
  obtain ⟨active, hactive⟩ := exists_active_of_resolveEdits hok
  obtain ⟨step, hstep, d, htarget, hk, htake⟩ := resolveEdits_makes hactive hok hfile hmade
  obtain ⟨⟨anchor, locate, hinsert⟩, _⟩ := hinserts active hactive step hstep
  obtain ⟨habsent, hmade_eq⟩ := StepContext.take_insert hinsert htake
  exact ⟨active, hactive, step, hstep, d, htarget, hk, habsent, _, hmade_eq⟩

/-- All edits of an action that only inserts lines stand in front of lines. -/
theorem InsertsLines.beforeLine (hinserts : action.InsertsLines w) {r : ResolvedEdits}
    (hok : action.resolveEdits w.source = .ok r) (path : Path) :
    ∀ made ∈ r.edit.editsFor path, made.BeforeLine := by
  intro made hmade
  obtain ⟨file, hfile, hmade⟩ := (WorkspaceEdit.mem_editsFor_iff _ _ _).mp hmade
  obtain ⟨_, _, _, _, _, _, _, _, line, rfl⟩ := hinserts.exists_insertion hok hfile hmade
  exact StepContext.insertion_beforeLine _ line _

/-- Making all edits of a resolution in a workspace. -/
structure Carried (w w' : Workspace) (edit : WorkspaceEdit) : Prop where
  active : w'.active = w.active
  roots : w'.roots = w.roots
  documents : w'.documents = edit.files.foldl Workspace.applyTo w.documents

theorem Carried.document? {r : ResolvedEdits} (hcarried : Carried w w' r.edit)
    (hok : action.resolveEdits w.source = .ok r) (path : Path) :
    w'.document? path = (w.document? path).map fun d =>
      (d.applyEdits (r.edit.editsFor path)).1 := by
  rw [Workspace.document?, hcarried.documents,
    Workspace.getElem?_foldl_applyTo (resolveEdits_wellFormed hok), Workspace.document?]

theorem InsertsLines.grows_carried (hinserts : action.InsertsLines w) {r : ResolvedEdits}
    (hok : action.resolveEdits w.source = .ok r) (hcarried : Carried w w' r.edit) :
    w.Grows w' where
  active := hcarried.active
  roots := hcarried.roots
  kept path d hd := by
    refine ⟨(d.applyEdits (r.edit.editsFor path)).1, ?_, ?_⟩
    · rw [hcarried.document? hok, hd, Option.map_some]
    · exact d.applyEdits_grows (hinserts.beforeLine hok path)
  closed path hnone := by
    rw [hcarried.document? hok, hnone, Option.map_none]

/-- A resolution that makes an edit puts the text of a step where it was not before. -/
theorem InsertsLines.progress (hinserts : action.InsertsLines w)
    (hkeyed : Workspace.Keyed w.documents) {r : ResolvedEdits}
    (hok : action.resolveEdits w.source = .ok r) (hcarried : Carried w w' r.edit)
    (hcount : 0 < r.edit.count) :
    ∃ step ∈ action.rule.steps, ¬ action.Present w step ∧ action.Present w' step := by
  obtain ⟨file, hmem, hedits⟩ := (WorkspaceEdit.count_pos_iff _).mp hcount
  obtain ⟨made, hmade⟩ := List.exists_mem_of_ne_nil _ hedits
  have hfile := WorkspaceEdit.getElem?_of_mem_files (resolveEdits_wellFormed hok) hmem
  obtain ⟨active, hactive, step, hstep, d, htarget, hk, habsent, line, hmade_eq⟩ :=
    hinserts.exists_insertion hok hfile hmade
  obtain ⟨path, hd, hsame⟩ := exists_path_of_target hactive htarget
  have hgrows := hinserts.grows_carried hok hcarried
  obtain ⟨active', hactive', hactiveGrows⟩ := hgrows.activeDocument? hactive
  refine ⟨step, hstep, ?_, ?_⟩
  · rintro ⟨active₀, d₀, hactive₀, htarget₀, hholds⟩
    obtain rfl := Option.some.inj (hactive.symm.trans hactive₀)
    obtain rfl := Except.ok.inj (htarget.symm.trans htarget₀)
    simp [habsent] at hholds
  · have hd' := hcarried.document? hok path
    rw [hd, Option.map_some] at hd'
    refine ⟨active', _, hactive', hsame w' active' hgrows.active hgrows.roots hactive'
      hactiveGrows.path _ hd', ?_⟩
    have hmem : made ∈ r.edit.editsFor path := by
      rw [WorkspaceEdit.mem_editsFor_iff, ← hkeyed path.components d hd, hk]
      exact ⟨file, hfile, hmade⟩
    have hpart := StepContext.infix_newText_insertion d line
      ((action.context w.source active).renderer.render step.text)
    rw [← hmade_eq] at hpart
    rw [renderer_context_eq w.source w'.source hactiveGrows.path]
    exact Document.holdsLiteral_of_part
      (hpart.trans (Document.newText_infix_applyEdits (hinserts.beforeLine hok path) hmem))

end CandidateAction

/-- Counting more of what was counted, and something else, comes to more. -/
theorem countP_lt_countP {α : Type} {p q : α → Bool} {l : List α}
    (himp : ∀ x ∈ l, p x = true → q x = true) {x : α} (hx : x ∈ l) (hq : q x = true)
    (hp : p x = false) : l.countP p < l.countP q := by
  obtain ⟨front, behind, rfl⟩ := List.append_of_mem hx
  have hfront : front.countP p ≤ front.countP q :=
    List.countP_mono_left fun y hy => himp y (List.mem_append_left _ hy)
  have hbehind : behind.countP p ≤ behind.countP q :=
    List.countP_mono_left fun y hy => himp y (List.mem_append_right _ (List.mem_cons_of_mem x hy))
  simp only [List.countP_append, List.countP_cons, hp, hq, Bool.false_eq_true, ↓reduceIte]
  omega

namespace Engine

/-- All that an invocation can do to the documents: it leaves them alone, or makes all edits of a
resolution. -/
theorem invoke_cases (e : Engine) (action : CandidateAction) {w : Workspace}
    (hkeyed : Workspace.Keyed w.documents) :
    ∃ inv, e.invoke action w = .ok inv ∧
      (inv.action.edit = none ∧ inv.workspace.active = w.active ∧
          inv.workspace.roots = w.roots ∧ inv.workspace.documents = w.documents ∨
        ∃ r, action.resolveEdits w.source = .ok r ∧ inv.action.edit = some r.edit ∧
          CandidateAction.Carried w inv.workspace r.edit) := by
  rcases e.resolve_cases action w.source with ⟨error, hresolve⟩ | ⟨r, hok, hresolve⟩
  · exact ⟨_, invoke_of_unresolved hresolve rfl, .inl ⟨rfl, rfl, rfl, rfl⟩⟩
  · have hwell := CandidateAction.resolveEdits_wellFormed hok
    have hopen := Workspace.isOpen_of_resolveEdits hkeyed hok
    exact ⟨_, invoke_of_resolved hresolve rfl hwell hopen, .inr ⟨r, hok, rfl, rfl, rfl, rfl⟩⟩

/-- The workspace that an invocation leaves. -/
def invoked (e : Engine) (w : Workspace) (call : CandidateAction) : Workspace :=
  match e.invoke call w with
  | .ok inv => inv.workspace
  | .error _ => w

/-- The workspace that invocations in a row leave. -/
def invokeAll (e : Engine) (w : Workspace) (calls : List CandidateAction) : Workspace :=
  calls.foldl e.invoked w

/-- The number of invocations in a row behind which the documents are not what they were before. -/
def changes (e : Engine) (w : Workspace) : List CandidateAction → Nat
  | [] => 0
  | call :: rest =>
    (if (e.invoked w call).openDocuments = w.openDocuments then 0 else 1) +
      e.changes (e.invoked w call) rest

variable {e : Engine} {w : Workspace} {call : CandidateAction}

theorem invoked_keyed (hkeyed : Workspace.Keyed w.documents) :
    Workspace.Keyed (e.invoked w call).documents := by
  unfold invoked
  split
  · rename_i inv hok
    obtain ⟨more, hmore⟩ := invoke_eq_foldl_perform hok
    rw [hmore]
    exact Workspace.foldl_perform_keyed hkeyed more
  · exact hkeyed

theorem grows_invoked (hkeyed : Workspace.Keyed w.documents) (hinserts : call.InsertsLines w) :
    w.Grows (e.invoked w call) := by
  obtain ⟨inv, hok, ⟨_, hactive, hroots, hdocuments⟩ | ⟨r, hresolved, _, hcarried⟩⟩ :=
    e.invoke_cases call hkeyed
  · simp only [invoked, hok]
    have hsame : ∀ path, inv.workspace.document? path = w.document? path := by
      intro path
      rw [Workspace.document?, hdocuments, Workspace.document?]
    exact ⟨hactive, hroots, fun path d hd => ⟨d, (hsame path).trans hd, .refl d⟩,
      fun path hnone => (hsame path).trans hnone⟩
  · simp only [invoked, hok]
    exact hinserts.grows_carried hresolved hcarried

/-- An invocation that changes a document puts the text of a step where it was not before. -/
theorem progress_of_changed (hkeyed : Workspace.Keyed w.documents)
    (hinserts : call.InsertsLines w)
    (hchanged : (e.invoked w call).openDocuments ≠ w.openDocuments) :
    ∃ step ∈ call.rule.steps, ¬ call.Present w step ∧ call.Present (e.invoked w call) step := by
  obtain ⟨inv, hok, ⟨_, _, _, hdocuments⟩ | ⟨r, hresolved, _, hcarried⟩⟩ :=
    e.invoke_cases call hkeyed
  · simp [invoked, hok, Workspace.openDocuments, hdocuments] at hchanged
  · simp only [invoked, hok] at hchanged ⊢
    apply hinserts.progress hkeyed hresolved hcarried
    rw [WorkspaceEdit.count_pos_iff]
    by_contra hnone
    have hwell := CandidateAction.resolveEdits_wellFormed hresolved
    have hfiles : r.edit.files = [] := by
      apply List.eq_nil_iff_forall_not_mem.mpr
      intro file hfile
      exact hnone ⟨file, hfile, (hwell _ file (WorkspaceEdit.getElem?_of_mem_files hwell hfile)).2⟩
    simp [Workspace.openDocuments, hcarried.documents, hfiles] at hchanged

end Engine

/-- Whether a call invokes one of some actions, with whatever edit that action still holds. -/
def CandidateAction.OneOf (call : CandidateAction) (actions : List CandidateAction) : Prop :=
  ∃ action ∈ actions, ∃ held, call = { action with edit := held }

/-- The steps of some actions, each with its action. -/
def CandidateAction.stepsOf (actions : List CandidateAction) :
    List (CandidateAction × EditStep) :=
  actions.flatMap fun action => action.rule.steps.map fun step => (action, step)

open Classical in
/-- The number of steps of some actions whose text is there. -/
noncomputable def Workspace.presentCount (w : Workspace) (actions : List CandidateAction) : Nat :=
  (CandidateAction.stepsOf actions).countP fun p => decide (p.1.Present w p.2)

namespace Workspace

open CandidateAction (stepsOf)

variable {w w' : Workspace} {actions : List CandidateAction}

theorem mem_stepsOf {action : CandidateAction} {step : EditStep} :
    (action, step) ∈ stepsOf actions ↔ action ∈ actions ∧ step ∈ action.rule.steps := by
  simp [stepsOf]

theorem presentCount_le (w : Workspace) (actions : List CandidateAction) :
    w.presentCount actions ≤ (actions.map fun action => action.rule.steps.length).sum := by
  have hlength : (stepsOf actions).length =
      (actions.map fun action => action.rule.steps.length).sum := by
    simp [stepsOf, List.length_flatMap]
  exact hlength ▸ List.countP_le_length

theorem presentCount_mono (hinserts : ∀ action ∈ actions, action.InsertsLines w)
    (hgrows : w.Grows w') : w.presentCount actions ≤ w'.presentCount actions := by
  apply List.countP_mono_left
  rintro ⟨action, step⟩ hmem hpresent
  obtain ⟨haction, hstep⟩ := mem_stepsOf.mp hmem
  simp only [decide_eq_true_eq] at hpresent ⊢
  exact hpresent.grows (hinserts action haction) hgrows hstep

theorem presentCount_lt (hinserts : ∀ action ∈ actions, action.InsertsLines w)
    (hgrows : w.Grows w') {action : CandidateAction} (haction : action ∈ actions) {step : EditStep}
    (hstep : step ∈ action.rule.steps) (habsent : ¬ action.Present w step)
    (hpresent : action.Present w' step) : w.presentCount actions < w'.presentCount actions := by
  apply countP_lt_countP (x := (action, step)) _ (mem_stepsOf.mpr ⟨haction, hstep⟩)
    (by simpa using hpresent) (by simpa using habsent)
  rintro ⟨other, step⟩ hmem hother
  obtain ⟨hmem, hstep⟩ := mem_stepsOf.mp hmem
  simp only [decide_eq_true_eq] at hother ⊢
  exact hother.grows (hinserts other hmem) hgrows hstep

end Workspace

namespace Engine

variable {e : Engine} {w : Workspace} {actions calls : List CandidateAction}

theorem insertsLines_of_oneOf (hinserts : ∀ action ∈ actions, action.InsertsLines w)
    {call : CandidateAction} (hcall : call.OneOf actions) : call.InsertsLines w := by
  obtain ⟨action, haction, held, rfl⟩ := hcall
  exact hinserts action haction

theorem invokeAll_keyed (hkeyed : Workspace.Keyed w.documents) (calls : List CandidateAction) :
    Workspace.Keyed (e.invokeAll w calls).documents := by
  induction calls generalizing w with
  | nil => exact hkeyed
  | cons call rest ih => exact ih (invoked_keyed hkeyed)

theorem grows_invokeAll (hkeyed : Workspace.Keyed w.documents)
    (hinserts : ∀ action ∈ actions, action.InsertsLines w)
    (hcalls : ∀ call ∈ calls, call.OneOf actions) : w.Grows (e.invokeAll w calls) := by
  induction calls generalizing w with
  | nil => exact .refl w
  | cons call rest ih =>
      have hcall := insertsLines_of_oneOf hinserts (hcalls call List.mem_cons_self)
      have hgrows : w.Grows (e.invoked w call) := grows_invoked hkeyed hcall
      refine hgrows.trans (ih (invoked_keyed hkeyed) ?_ ?_)
      · exact fun action haction => (hinserts action haction).grows hgrows
      · exact fun other hother => hcalls other (List.mem_cons_of_mem call hother)

/-- Each change is paid for by a step whose text was not there before. -/
theorem changes_add_presentCount_le (hkeyed : Workspace.Keyed w.documents)
    (hinserts : ∀ action ∈ actions, action.InsertsLines w)
    (hcalls : ∀ call ∈ calls, call.OneOf actions) :
    e.changes w calls + w.presentCount actions ≤
      (e.invokeAll w calls).presentCount actions := by
  induction calls generalizing w with
  | nil => simp [changes, invokeAll]
  | cons call rest ih =>
      have hcall := hcalls call List.mem_cons_self
      have hcallInserts := insertsLines_of_oneOf hinserts hcall
      have hgrows : w.Grows (e.invoked w call) := grows_invoked hkeyed hcallInserts
      have hrest := ih (invoked_keyed hkeyed)
        (fun action haction => (hinserts action haction).grows hgrows)
        (fun other hother => hcalls other (List.mem_cons_of_mem call hother))
      have hstep : (if (e.invoked w call).openDocuments = w.openDocuments then 0 else 1) +
          w.presentCount actions ≤ (e.invoked w call).presentCount actions := by
        split
        · rw [Nat.zero_add]
          exact Workspace.presentCount_mono hinserts hgrows
        · rename_i hchanged
          obtain ⟨step, hstep, habsent, hpresent⟩ :=
            progress_of_changed hkeyed hcallInserts hchanged
          obtain ⟨action, haction, held, rfl⟩ := hcall
          have hlt := Workspace.presentCount_lt hinserts hgrows haction hstep habsent hpresent
          omega
      have hall : e.invokeAll w (call :: rest) = e.invokeAll (e.invoked w call) rest := rfl
      rw [changes, hall]
      omega

/-- What invocations in a row of actions that only insert lines come to. -/
structure Converges (e : Engine) (w : Workspace) (actions calls : List CandidateAction) : Prop where
  /-- A text that is there stays there. -/
  stays : ∀ before more after, calls = before ++ more ++ after →
    ∀ action ∈ actions, ∀ step ∈ action.rule.steps,
      action.Present (e.invokeAll w before) step →
        action.Present (e.invokeAll w (before ++ more)) step
  /-- An invocation that makes an edit puts a text where it was not before. -/
  progress : ∀ before call after, calls = before ++ call :: after →
    ∃ inv, e.invoke call (e.invokeAll w before) = .ok inv ∧
      inv.workspace = e.invokeAll w (before ++ [call]) ∧
      ∀ edit, inv.action.edit = some edit → 0 < edit.count →
        ∃ step ∈ call.rule.steps, ¬ call.Present (e.invokeAll w before) step ∧
          call.Present inv.workspace step
  /-- There are no more invocations that change a document than there are steps. -/
  bounded : e.changes w calls ≤ (actions.map fun action => action.rule.steps.length).sum

/-- Actions that only insert lines do so only finitely often, in whatever order and however often
they are invoked. -/
theorem invokeAll_converges (operations : List Workspace.Operation) (e : Engine)
    (hinserts : ∀ action ∈ actions, action.InsertsLines (Workspace.afterAll operations))
    (hcalls : ∀ call ∈ calls, call.OneOf actions) :
    e.Converges (Workspace.afterAll operations) actions calls := by
  have hkeyed := Workspace.afterAll_keyed operations
  generalize Workspace.afterAll operations = w at hkeyed hinserts ⊢
  have hreached : ∀ before after, calls = before ++ after →
      Workspace.Keyed (e.invokeAll w before).documents ∧
        ∀ action ∈ actions, action.InsertsLines (e.invokeAll w before) := by
    intro before after hsplit
    refine ⟨invokeAll_keyed hkeyed before, fun action haction => ?_⟩
    refine (hinserts action haction).grows (grows_invokeAll hkeyed hinserts ?_)
    exact fun call hcall => hcalls call (hsplit ▸ List.mem_append_left after hcall)
  refine ⟨?_, ?_, ?_⟩
  · intro before more after hsplit action haction step hstep hpresent
    rw [List.append_assoc] at hsplit
    obtain ⟨hkeyed', hinserts'⟩ := hreached before (more ++ after) hsplit
    have hall : e.invokeAll w (before ++ more) = e.invokeAll (e.invokeAll w before) more :=
      List.foldl_append
    rw [hall]
    refine hpresent.grows (hinserts' action haction)
      (grows_invokeAll hkeyed' hinserts' fun call hcall => hcalls call ?_) hstep
    exact hsplit ▸ List.mem_append_right before (List.mem_append_left after hcall)
  · intro before call after hsplit
    obtain ⟨hkeyed', hinserts'⟩ := hreached before (call :: after) hsplit
    have hcall : call.OneOf actions :=
      hcalls call (hsplit ▸ List.mem_append_right before List.mem_cons_self)
    obtain ⟨inv, hok, hcases⟩ := e.invoke_cases call hkeyed'
    refine ⟨inv, hok, ?_, ?_⟩
    · simp [invokeAll, invoked, List.foldl_append] at hok ⊢
      rw [hok]
    · intro edit hedit hcount
      rcases hcases with ⟨hnone, _⟩ | ⟨r, hresolved, hsome, hcarried⟩
      · simp [hnone] at hedit
      · obtain rfl := Option.some.inj (hsome.symm.trans hedit)
        exact (insertsLines_of_oneOf hinserts' hcall).progress hkeyed' hresolved hcarried hcount
  · have hpaid := changes_add_presentCount_le (e := e) hkeyed hinserts hcalls
    have hbound := (e.invokeAll w calls).presentCount_le actions
    omega

end Engine

end QuickFix

namespace QuickFix.ConvergenceWitness

def operations : List Workspace.Operation :=
  [.openDocument ⟨"/a"⟩ "rust" "x\n", .openDocument ⟨"/b"⟩ "rust" ""]

def action (title : String) (steps : List EditStep) : CandidateAction :=
  ⟨title, "rust", ⟨"/a"⟩, ⟨title, [], none, steps, none, true⟩, ⟨none, none⟩, {}, none⟩

/-- A line for the active document, and behind it one for the other document. -/
def imports : CandidateAction :=
  action "imports" [
    ((EditStep.insert "p\n").anchored .afterLast "x").withContinuation .onNextConditionFailure,
    ((EditStep.insert "q").inFile "b").unlessFound ["p"] none]

def comments : CandidateAction :=
  action "comments" [(EditStep.insert "p\n").anchored .beforeFirst "x"]

/-- Calls of both actions, one of them with an edit from before. -/
def calls : List CandidateAction :=
  [imports, comments, { imports with edit := some .empty }, imports, comments]

def serving : Engine := (({} : Engine).reload ⟨{}, [⟨["rust"], [imports.rule, comments.rule]⟩]⟩).1

theorem singleLine_p : SingleLine "p\n" := by
  have hneedle : Document.needle "p\n" = ['p'] := by cbv
  simp only [SingleLine, hneedle, List.mem_singleton, forall_eq]
  cbv

theorem singleLine_q : SingleLine "q" := by
  have hneedle : Document.needle "q" = ['q'] := by cbv
  simp only [SingleLine, hneedle, List.mem_singleton, forall_eq]
  cbv

theorem insertsLines_action (title : String) {steps : List EditStep} (w : Workspace)
    (hsteps : ∀ step ∈ steps, (∃ anchor locate, step.operation = .insert anchor locate) ∧
      Template.hasPlaceholders step.text = false ∧ SingleLine step.text) :
    (action title steps).InsertsLines w := by
  intro active _ step hstep
  obtain ⟨hinsert, hplain, hline⟩ := hsteps step hstep
  refine ⟨hinsert, ?_⟩
  rw [Renderer.render, hplain]
  exact hline

theorem insertsLines :
    ∀ action ∈ [imports, comments], action.InsertsLines (Workspace.afterAll operations) := by
  have hp : Template.hasPlaceholders "p\n" = false := by cbv
  have hq : Template.hasPlaceholders "q" = false := by cbv
  intro action haction
  simp only [List.mem_cons, List.not_mem_nil, or_false] at haction
  rcases haction with rfl | rfl
  · apply insertsLines_action
    simp [EditStep.insert, EditStep.anchored, EditStep.withContinuation, EditStep.inFile,
      EditStep.unlessFound, hp, hq, singleLine_p, singleLine_q]
  · apply insertsLines_action
    simp [EditStep.insert, EditStep.anchored, hp, singleLine_p]

theorem oneOf_calls : ∀ call ∈ calls, call.OneOf [imports, comments] := by
  intro call hcall
  simp only [calls, List.mem_cons, List.not_mem_nil, or_false] at hcall
  rcases hcall with rfl | rfl | rfl | rfl | rfl
  · exact ⟨imports, by simp, none, rfl⟩
  · exact ⟨comments, by simp, none, rfl⟩
  · exact ⟨imports, by simp, some .empty, rfl⟩
  · exact ⟨imports, by simp, none, rfl⟩
  · exact ⟨comments, by simp, none, rfl⟩

/-- Five calls of two actions that have three steps together change the documents at most three
times. -/
theorem converging_calls :
    (∀ action ∈ [imports, comments], action.InsertsLines (Workspace.afterAll operations)) ∧
      (∀ call ∈ calls, call.OneOf [imports, comments]) ∧
      serving.changes (Workspace.afterAll operations) calls ≤ 3 :=
  ⟨insertsLines, oneOf_calls,
    (serving.invokeAll_converges operations insertsLines oneOf_calls).bounded⟩

end QuickFix.ConvergenceWitness
