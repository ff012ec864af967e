import QuickFix.Proofs.Convergence
import QuickFix.Proofs.Halting

/-!
Asking for documents. A resolution that comes to a step in a document that is not open fails there,
and asks for that document. Once it is open, with whatever text, the next resolution comes to the
same step again: the steps in front of it never looked at the new document. It can only fail further
on. So a client that opens what is asked for is asked at most once for each step, and never twice
for one document.
-/

namespace QuickFix

namespace StepContext

variable {ctx : StepContext} {source : DocumentSource} {steps : List EditStep} {s t : Standing}
  {i j : Nat} {error error' : ResolveError}

/-- The same steps with other documents to read. -/
def withSource (ctx : StepContext) (source : DocumentSource) : StepContext := { ctx with source }

/-- Whether each step whose document can be told goes to the same one in other documents. -/
def KeptBy (ctx : StepContext) (source : DocumentSource) : Prop :=
  ∀ step d, ctx.target step = .ok d → (ctx.withSource source).target step = .ok d

/-- Where the steps go is all that they read of the documents that are open. -/
theorem KeptBy.passes (hkept : ctx.KeptBy source) (hpass : ctx.Passes s t) :
    (ctx.withSource source).Passes s t := by
  obtain ⟨step, d, hsteps, htarget, hcase⟩ := (passes_iff ctx s t).mp hpass
  exact (passes_iff _ s t).mpr ⟨step, d, hsteps, hkept step d htarget, hcase⟩

theorem KeptBy.standing? (hkept : ctx.KeptBy source) (hstanding : ctx.standing? i s = some t) :
    (ctx.withSource source).standing? i s = some t := by
  induction i generalizing s with
  | zero => exact hstanding
  | succ i ih =>
      obtain ⟨u, hpass, hu⟩ := standing?_succ_eq_some_iff.mp hstanding
      exact standing?_succ_eq_some_iff.mpr ⟨u, hkept.passes hpass, ih hu⟩

/-- Whether a resolution comes to the step of an index, and the document of that step cannot be
told. -/
def FailsAt (ctx : StepContext) (steps : List EditStep) (i : Nat) (error : ResolveError) : Prop :=
  ∃ step, steps[i]? = some step ∧ ctx.ComesTo steps i ∧ ctx.target step = .error error

theorem FailsAt.lt_length (hfails : ctx.FailsAt steps i error) : i < steps.length := by
  obtain ⟨step, hstep, _⟩ := hfails
  exact (List.getElem?_eq_some_iff.mp hstep).1

/-- A resolution that comes to a step fails at none in front of it. -/
theorem FailsAt.le_of_comesTo (hfails : ctx.FailsAt steps j error) (hcomes : ctx.ComesTo steps i) :
    i ≤ j := by
  obtain ⟨step, hstep, _, htarget⟩ := hfails
  obtain ⟨t, hstanding, _⟩ := hcomes
  by_contra hlt
  obtain ⟨d, hd⟩ := (comesTo_of_lt hstanding (Nat.lt_of_not_le hlt)).2 step hstep
  exact nomatch htarget.symm.trans hd

theorem FailsAt.unique (hfails : ctx.FailsAt steps i error) (hfails' : ctx.FailsAt steps j error') :
    i = j := by
  obtain ⟨_, _, hcomes, _⟩ := id hfails
  obtain ⟨_, _, hcomes', _⟩ := id hfails'
  exact Nat.le_antisymm (hfails'.le_of_comesTo hcomes) (hfails.le_of_comesTo hcomes')

/-- With a document for the step where a resolution failed, the next one fails behind that step, if
at all. -/
theorem FailsAt.lt_of_keptBy (hfails : ctx.FailsAt steps i error) (hkept : ctx.KeptBy source)
    (hopened : ∀ step, ctx.target step = .error error →
      ∃ d, (ctx.withSource source).target step = .ok d)
    (hnext : (ctx.withSource source).FailsAt steps j error') : i < j := by
  obtain ⟨step, hstep, ⟨t, hstanding, hleft⟩, htarget⟩ := hfails
  have hle := hnext.le_of_comesTo ⟨t, hkept.standing? hstanding, hleft⟩
  refine Nat.lt_of_le_of_ne hle ?_
  rintro rfl
  obtain ⟨step', hstep', _, htarget'⟩ := hnext
  obtain rfl := Option.some.inj (hstep.symm.trans hstep')
  obtain ⟨d, hd⟩ := hopened step htarget
  exact nomatch htarget'.symm.trans hd

/-- A step that asks for a document refers to a path where none is open. -/
theorem reference_of_target_eq_error {step : EditStep} {path : Path}
    (htarget : ctx.target step = .error (.unresolvedDocument path)) :
    ∃ reference, (step.target.map ctx.renderer.render).or ctx.defaultFile = some reference ∧
      ctx.source.reference ctx.active reference = .ok path ∧ ctx.source.find? path = none := by
  unfold target at htarget
  split at htarget
  · cases htarget
  · rename_i reference hreference
    refine ⟨reference, hreference, ?_⟩
    split at htarget
    · rename_i error hread
      obtain rfl := Except.error.inj htarget
      unfold DocumentSource.reference at hread
      split at hread
      · split at hread
        · cases hread
        · cases hread
      · cases hread
    · rename_i path' hread
      split at htarget
      · cases htarget
      · rename_i hnone
        obtain rfl := ResolveError.unresolvedDocument.inj (Except.error.inj htarget)
        exact ⟨hread, hnone⟩

end StepContext

namespace Workspace

variable {w w' : Workspace} {path : Path} {active : Document} {language text : String}

/-- What becomes of a workspace with an active document when another one is opened at a path. -/
structure Opens (w : Workspace) (path : Path) (w' : Workspace) : Prop where
  active : w'.activeDocument? = w.activeDocument?
  roots : w'.roots = w.roots
  opened : ∃ d, w'.document? path = some d
  others : ∀ other : Path, path.components ≠ other.components →
    w'.document? other = w.document? other

theorem openDocument_of_closed (hclosed : w.document? path = none) (language text : String) :
    w.openDocument path language text = .ok { w with
      documents := w.documents.insert path.components (.ofText path language text)
      active := w.active.or (some path) } := by
  rw [openDocument, isOpen_eq_false_iff.mpr hclosed]
  rfl

theorem opens_of_openDocument (hclosed : w.document? path = none)
    (hactive : w.activeDocument? = some active)
    (hok : w.openDocument path language text = .ok w') : w.Opens path w' := by
  rw [openDocument_of_closed hclosed] at hok
  obtain rfl := Except.ok.inj hok
  have hothers : ∀ other : Path, path.components ≠ other.components →
      (w.documents.insert path.components (.ofText path language text))[other.components]? =
        w.document? other := by
    intro other hne
    rw [Std.TreeMap.getElem?_insert, if_neg (by simpa using hne), document?]
  obtain ⟨activePath, hpath, hopen⟩ := Option.bind_eq_some_iff.mp hactive
  have hne : path.components ≠ activePath.components := by
    intro heq
    rw [document?, heq] at hclosed
    cases hclosed.symm.trans hopen
  refine ⟨?_, rfl, ⟨_, Std.TreeMap.getElem?_insert_self⟩, hothers⟩
  rw [hactive, activeDocument?, hpath]
  exact (hothers activePath hne).trans hopen

theorem Opens.document? (hopens : w.Opens path w') (hclosed : w.document? path = none)
    {other : Path} {d : Document} (hd : w.document? other = some d) : w'.document? other = some d := by
  rw [hopens.others other, hd]
  intro heq
  rw [Workspace.document?, heq] at hclosed
  cases hclosed.symm.trans hd

theorem Opens.reference (hopens : w.Opens path w') (active : Document) (reference : String) :
    w'.source.reference active reference = w.source.reference active reference :=
  reference_eq hopens.roots rfl reference

theorem Opens.keptBy (hopens : w.Opens path w') (hclosed : w.document? path = none)
    (action : CandidateAction) (active : Document) :
    (action.context w.source active).KeptBy w'.source := by
  intro step d htarget
  simp only [StepContext.target, StepContext.withSource, CandidateAction.context] at htarget ⊢
  split at htarget
  · exact htarget
  · rw [hopens.reference]
    split at htarget
    · cases htarget
    · split at htarget
      · rename_i found hfound
        have hfound' : w'.source.find? _ = some found := hopens.document? hclosed hfound
        rw [hfound']
        exact htarget
      · cases htarget

theorem Opens.exists_target (hopens : w.Opens path w') (action : CandidateAction)
    (active : Document) {step : EditStep}
    (htarget : (action.context w.source active).target step =
      .error (.unresolvedDocument path)) :
    ∃ d, ((action.context w.source active).withSource w'.source).target step = .ok d := by
  obtain ⟨reference, hreference, hread, _⟩ := StepContext.reference_of_target_eq_error htarget
  obtain ⟨d, hd⟩ := hopens.opened
  have hread' : w'.source.reference active reference = .ok path :=
    (hopens.reference active reference).trans hread
  have hfound : w'.source.find? path = some d := hd
  refine ⟨d, ?_⟩
  simp only [StepContext.withSource, StepContext.target, CandidateAction.context] at hreference ⊢
  simp only [hreference, hread', hfound]

end Workspace

/-- An action that is to be resolved, and the workspace to do so in. -/
structure Attempt where
  action : CandidateAction
  workspace : Workspace

/-- Whether resolving comes to the step of an index and fails there. -/
def Attempt.FailsAt (a : Attempt) (i : Nat) (error : ResolveError) : Prop :=
  ∃ active, a.workspace.activeDocument? = some active ∧
    (a.action.context a.workspace.source active).FailsAt a.action.rule.steps i error

/-- A document that was asked for, with the index of the step that needs it. -/
structure Demand where
  step : Nat
  path : Path

/-- What a client opens when it is asked for a path: a language and a text. -/
abbrev Client := Attempt → Path → String × String

namespace Engine

variable {e : Engine} {client : Client} {a b : Attempt} {path : Path} {held : CandidateAction}
  {demands : List Demand}

/-- Whether resolving comes to nothing but a question for a document, and what is left of the action
then. -/
def Asks (e : Engine) (a : Attempt) (path : Path) (held : CandidateAction) : Prop :=
  e.resolve a.action a.workspace.source = (.unresolved (.unresolvedDocument path), held)

/-- Rounds in a row. In each the action is resolved, and the document that is asked for is opened.
-/
inductive Rounds (e : Engine) (client : Client) : Attempt → List Demand → Attempt → Prop
  | start (a : Attempt) : Rounds e client a [] a
  | opened {a b : Attempt} {path : Path} {held : CandidateAction} {w : Workspace} {i : Nat}
      {demands : List Demand} (hasks : e.Asks a path held)
      (hfails : a.FailsAt i (.unresolvedDocument path))
      (hopen : a.workspace.openDocument path (client a path).1 (client a path).2 = .ok w)
      (hrest : Rounds e client ⟨held, w⟩ demands b) :
      Rounds e client a (⟨i, path⟩ :: demands) b

theorem Asks.inversion (hasks : e.Asks a path held) :
    held = { a.action with edit := none } ∧ a.workspace.document? path = none ∧
      ∃ i, a.FailsAt i (.unresolvedDocument path) := by
  have hresolved : a.action.resolveEdits a.workspace.source =
      .error (.unresolvedDocument path) ∧ { a.action with edit := none } = held := by
    simp only [Asks, resolve] at hasks
    split at hasks
    · split at hasks
      · cases hasks
      · rename_i error herror
        simp only [Prod.mk.injEq, Resolution.unresolved.injEq] at hasks
        exact ⟨hasks.1 ▸ herror, hasks.2⟩
    · cases hasks
  obtain ⟨herror, hheld⟩ := hresolved
  unfold CandidateAction.resolveEdits at herror
  split at herror
  · cases herror
  · rename_i active hactive
    obtain ⟨i, step, hstep, hcomes, htarget, _⟩ :=
      StepContext.resolveFrom_eq_error_iff_comesTo.mp herror
    obtain ⟨_, _, _, hclosed⟩ := StepContext.reference_of_target_eq_error htarget
    exact ⟨hheld.symm, hclosed, i, active, hactive, step, hstep, hcomes, htarget⟩

/-- What one round does: it opens a document that was not open, and changes nothing else that
resolving reads. -/
theorem Asks.opens (hasks : e.Asks a path held) {w : Workspace} {language text : String}
    (hopen : a.workspace.openDocument path language text = .ok w) : a.workspace.Opens path w := by
  obtain ⟨_, hclosed, _, active, hactive, _⟩ := hasks.inversion
  exact Workspace.opens_of_openDocument hclosed hactive hopen

theorem Asks.lt_of_failsAt (hasks : e.Asks a path held) {w : Workspace} {language text : String}
    (hopen : a.workspace.openDocument path language text = .ok w) {i j : Nat}
    {error : ResolveError} (hfails : a.FailsAt i (.unresolvedDocument path))
    (hnext : Attempt.FailsAt ⟨held, w⟩ j error) : i < j := by
  obtain ⟨rfl, hclosed, _⟩ := hasks.inversion
  have hopens := hasks.opens hopen
  obtain ⟨active, hactive, hfails⟩ := hfails
  obtain ⟨active', hactive', hnext⟩ := hnext
  obtain rfl := Option.some.inj ((hopens.active.trans hactive).symm.trans hactive')
  exact hfails.lt_of_keptBy (hopens.keptBy hclosed a.action active)
    (fun step htarget => hopens.exists_target a.action active htarget) hnext

namespace Rounds

theorem action_eq (hrounds : e.Rounds client a demands b) :
    ∃ edit, b.action = { a.action with edit } := by
  induction hrounds with
  | start a => exact ⟨a.action.edit, rfl⟩
  | opened hasks _ _ _ ih =>
      obtain ⟨rfl, _⟩ := hasks.inversion
      exact ih

theorem activeDocument?_eq (hrounds : e.Rounds client a demands b) :
    b.workspace.activeDocument? = a.workspace.activeDocument? := by
  induction hrounds with
  | start a => rfl
  | opened hasks _ hopen _ ih => exact ih.trans (hasks.opens hopen).active

theorem roots_eq (hrounds : e.Rounds client a demands b) :
    b.workspace.roots = a.workspace.roots := by
  induction hrounds with
  | start a => rfl
  | opened hasks _ hopen _ ih => exact ih.trans (hasks.opens hopen).roots

theorem others_eq (hrounds : e.Rounds client a demands b) {other : Path}
    (hother : ∀ demand ∈ demands, demand.path.components ≠ other.components) :
    b.workspace.document? other = a.workspace.document? other := by
  induction hrounds with
  | start a => rfl
  | opened hasks _ hopen _ ih =>
      obtain ⟨hfirst, hrest⟩ := List.forall_mem_cons.mp hother
      exact (ih hrest).trans ((hasks.opens hopen).others other hfirst)

theorem closed (hrounds : e.Rounds client a demands b) :
    ∀ demand ∈ demands, a.workspace.document? demand.path = none := by
  induction hrounds with
  | start a => simp
  | opened hasks _ hopen _ ih =>
      obtain ⟨_, hclosed, _⟩ := hasks.inversion
      refine List.forall_mem_cons.mpr ⟨hclosed, fun demand hdemand => ?_⟩
      by_contra hd
      obtain ⟨d, hd⟩ := Option.ne_none_iff_exists'.mp hd
      have hkept := (hasks.opens hopen).document? hclosed hd
      exact nomatch (ih demand hdemand).symm.trans hkept

theorem distinct (hrounds : e.Rounds client a demands b) :
    demands.Pairwise fun p q => p.path.components ≠ q.path.components := by
  induction hrounds with
  | start a => exact .nil
  | opened hasks _ hopen hrest ih =>
      refine List.pairwise_cons.mpr ⟨fun demand hdemand heq => ?_, ih⟩
      obtain ⟨d, hd⟩ := (hasks.opens hopen).opened
      have hclosed := hrest.closed demand hdemand
      rw [Workspace.document?, ← heq] at hclosed
      cases hclosed.symm.trans hd

/-- What holds of every step where resolving can fail holds of the steps that ask, and of the one
where resolving fails in the end. -/
theorem past (hrounds : e.Rounds client a demands b) {n : Nat}
    (hpast : ∀ i error, a.FailsAt i error → n < i) :
    (∀ demand ∈ demands, n < demand.step) ∧ ∀ i error, b.FailsAt i error → n < i := by
  induction hrounds with
  | start a => exact ⟨by simp, hpast⟩
  | opened hasks hfails hopen _ ih =>
      have hfirst := hpast _ _ hfails
      obtain ⟨hdemands, hend⟩ := ih fun i error hnext =>
        Nat.lt_trans hfirst (hasks.lt_of_failsAt hopen hfails hnext)
      exact ⟨List.forall_mem_cons.mpr ⟨hfirst, hdemands⟩, hend⟩

/-- Every round asks behind the step where the one before did. -/
theorem rises (hrounds : e.Rounds client a demands b) :
    (demands.Pairwise fun p q => p.step < q.step) ∧
      ∀ i error, b.FailsAt i error → ∀ demand ∈ demands, demand.step < i := by
  induction hrounds with
  | start a => exact ⟨.nil, by simp⟩
  | opened hasks hfails hopen hrest ih =>
      obtain ⟨hdemands, hend⟩ := hrest.past fun i error hnext =>
        hasks.lt_of_failsAt hopen hfails hnext
      exact ⟨List.pairwise_cons.mpr ⟨hdemands, ih.1⟩, fun i error hfails' =>
        List.forall_mem_cons.mpr ⟨hend i error hfails', ih.2 i error hfails'⟩⟩

theorem step_lt (hrounds : e.Rounds client a demands b) :
    ∀ demand ∈ demands, demand.step < a.action.rule.steps.length := by
  induction hrounds with
  | start a => simp
  | opened hasks hfails _ _ ih =>
      obtain ⟨rfl, _⟩ := hasks.inversion
      obtain ⟨_, _, hfails⟩ := hfails
      exact List.forall_mem_cons.mpr ⟨hfails.lt_length, ih⟩

theorem length_le (hrounds : e.Rounds client a demands b) :
    demands.length ≤ a.action.rule.steps.length := by
  have hnodup : (demands.map Demand.step).Nodup :=
    List.pairwise_map.mpr (hrounds.rises.1.imp Nat.ne_of_lt)
  have hrange : demands.map Demand.step ⊆ List.range a.action.rule.steps.length := by
    intro i hi
    obtain ⟨demand, hdemand, rfl⟩ := List.mem_map.mp hi
    exact List.mem_range.mpr (hrounds.step_lt demand hdemand)
  have hle := (List.subperm_of_subset hnodup hrange).length_le
  rwa [List.length_map, List.length_range] at hle

end Rounds

/-- A client opens what it is asked for as often as it likes, unless it is asked no more before. -/
theorem exists_rounds (e : Engine) (client : Client) (a : Attempt) (count : Nat) :
    ∃ demands b, e.Rounds client a demands b ∧
      (demands.length = count ∨ demands.length < count ∧ ∀ path held, ¬ e.Asks b path held) := by
  induction count generalizing a with
  | zero => exact ⟨[], a, .start a, .inl rfl⟩
  | succ count ih =>
      by_cases hasks : ∃ path held, e.Asks a path held
      · obtain ⟨path, held, hasks⟩ := hasks
        obtain ⟨_, hclosed, i, hfails⟩ := hasks.inversion
        have hopen := Workspace.openDocument_of_closed hclosed (client a path).1 (client a path).2
        obtain ⟨demands, b, hrest, hcount⟩ := ih ⟨held, _⟩
        refine ⟨⟨i, path⟩ :: demands, b, .opened hasks hfails hopen hrest, ?_⟩
        rcases hcount with heq | ⟨hlt, hends⟩
        · exact .inl (congrArg (· + 1) heq)
        · exact .inr ⟨Nat.succ_lt_succ hlt, hends⟩
      · exact ⟨[], a, .start a, .inr ⟨Nat.succ_pos count, fun path held hasks' =>
          hasks ⟨path, held, hasks'⟩⟩⟩

/-- What comes of resolving an action for a client that opens what it is asked for. -/
structure SettlesFor (e : Engine) (client : Client) (a : Attempt) : Prop where
  /-- Whatever is asked for can be opened, as any document, and one step asks for it. -/
  opens : ∀ demands b, e.Rounds client a demands b → ∀ path held, e.Asks b path held →
    (∀ language text, ∃ w, b.workspace.openDocument path language text = .ok w) ∧
      ∃ i, b.FailsAt i (.unresolvedDocument path) ∧ ∀ j error, b.FailsAt j error → j = i
  /-- Nothing else that resolving reads is changed on the way. -/
  keeps : ∀ demands b, e.Rounds client a demands b →
    (∃ edit, b.action = { a.action with edit }) ∧
      b.workspace.activeDocument? = a.workspace.activeDocument? ∧
      b.workspace.roots = a.workspace.roots ∧
      ∀ path : Path, (∀ demand ∈ demands, demand.path.components ≠ path.components) →
        b.workspace.document? path = a.workspace.document? path
  /-- No document is asked for twice. -/
  distinct : ∀ demands b, e.Rounds client a demands b →
    demands.Pairwise fun p q => p.path.components ≠ q.path.components
  /-- Every round fails behind the step where the one before did. -/
  rises : ∀ demands b, e.Rounds client a demands b →
    (demands.Pairwise fun p q => p.step < q.step) ∧
      ∀ i error, b.FailsAt i error → ∀ demand ∈ demands, demand.step < i
  /-- There are no more rounds than steps. -/
  bounded : ∀ demands b, e.Rounds client a demands b →
    demands.length ≤ a.action.rule.steps.length
  /-- At last nothing is asked for. -/
  ends : ∃ demands b, e.Rounds client a demands b ∧
    demands.length ≤ a.action.rule.steps.length ∧ ∀ path held, ¬ e.Asks b path held

/-- A client that opens what it is asked for is asked at most once for each step. -/
theorem settlesFor_client (e : Engine) (client : Client) (a : Attempt) : e.SettlesFor client a where
  opens demands b _ path held hasks := by
    obtain ⟨_, hclosed, i, active, hactive, hfails⟩ := hasks.inversion
    refine ⟨fun language text => ⟨_, Workspace.openDocument_of_closed hclosed language text⟩,
      i, ⟨active, hactive, hfails⟩, ?_⟩
    rintro j error ⟨active', hactive', hfails'⟩
    obtain rfl := Option.some.inj (hactive.symm.trans hactive')
    exact hfails'.unique hfails
  keeps demands b hrounds :=
    ⟨hrounds.action_eq, hrounds.activeDocument?_eq, hrounds.roots_eq, fun _ => hrounds.others_eq⟩
  distinct demands b hrounds := hrounds.distinct
  rises demands b hrounds := hrounds.rises
  bounded demands b hrounds := hrounds.length_le
  ends := by
    obtain ⟨demands, b, hrounds, hcount⟩ :=
      e.exists_rounds client a (a.action.rule.steps.length + 1)
    have hle := hrounds.length_le
    rcases hcount with heq | ⟨_, hends⟩
    · omega
    · exact ⟨demands, b, hrounds, hle, hends⟩

end Engine

end QuickFix
