import QuickFix.Proofs.Gates
import QuickFix.Workspace.Invoke

/-!
The default file of a rule. It stands for a file written on every step that names none: the rule
with the file on its steps is offered for the same queries, and its actions come to the same edits
or the same error. A default file is rendered once and a file of a step whenever the step is looked
at, but both with the same names, and no step looks at another one's file.
-/

namespace QuickFix

namespace EditStep

/-- The step with a file, if it names none itself. -/
def orInFile (step : EditStep) (file : String) : EditStep :=
  { step with target := step.target.or (some file) }

variable (step : EditStep) (file : String)

theorem normalize_orInFile : (step.orInFile file).normalize = step.normalize.orInFile file := by
  obtain ⟨target, operation, condition, text, continuation⟩ := step
  cases operation with
  | insert anchor locate => cases locate <;> rfl
  | replace locate stop => rfl

/-- Whether a step is well formed has nothing to do with its file. -/
theorem validate_orInFile (index : Nat) :
    (step.orInFile file).validate index = step.validate index := rfl

end EditStep

namespace StepContext

/-- The same steps without a default file. -/
def withoutDefault (ctx : StepContext) : StepContext := { ctx with defaultFile := none }

variable {ctx : StepContext} {file : String}

/-- The file written on a step leads where the default file does. -/
theorem target_orInFile (hfile : ctx.defaultFile = some (ctx.renderer.render file))
    (step : EditStep) : ctx.withoutDefault.target (step.orInFile file) = ctx.target step := by
  have hreference : ((step.orInFile file).target.map ctx.renderer.render).or none =
      (step.target.map ctx.renderer.render).or ctx.defaultFile := by
    rw [hfile, EditStep.orInFile]
    cases step.target <;> rfl
  simp only [target, withoutDefault, hreference]

/-- In its document a step does the same, whichever way it got there. -/
theorem take_orInFile (ctx : StepContext) (d : Document) (step : EditStep) (file : String) :
    ctx.withoutDefault.take d (step.orInFile file) = ctx.take d step := rfl

/-- Looking ahead, a step reads the condition of the next one, not its file. -/
theorem stopsBehind_orInFile (ctx : StepContext) (d : Document) (step : EditStep)
    (rest : List EditStep) (file : String) :
    ctx.withoutDefault.stopsBehind d (step.orInFile file) (rest.map (·.orInFile file)) =
      ctx.stopsBehind d step rest := by
  cases rest <;> rfl

/-- With the default file written on them, the steps come to the same. -/
theorem resolveFrom_orInFile (hfile : ctx.defaultFile = some (ctx.renderer.render file))
    (edit : WorkspaceEdit) (steps : List EditStep) :
    ctx.withoutDefault.resolveFrom edit (steps.map (·.orInFile file)) =
      ctx.resolveFrom edit steps := by
  induction steps generalizing edit with
  | nil => rfl
  | cons step rest ih =>
      simp only [List.map_cons, resolveFrom, target_orInFile hfile, take_orInFile,
        stopsBehind_orInFile]
      cases ctx.target step with
      | error e => rfl
      | ok d =>
          simp only
          cases ctx.take d step with
          | skipped => exact ih edit
          | halted => rfl
          | taken made =>
              simp only
              cases ctx.stopsBehind d step rest with
              | some needsReapply => rfl
              | none => exact ih (queue edit d made)

end StepContext

/-- The action with another rule. -/
def CandidateAction.withRule (action : CandidateAction) (rule : Rule) : CandidateAction :=
  { action with rule }

/-- The same of an action that was invoked. -/
def Invocation.withRule (i : Invocation) (rule : Rule) : Invocation :=
  { i with action := i.action.withRule rule }

namespace Rule

/-- Whether nothing that can be seen of one rule tells it from another: they match the same queries
with the same evidence, and their actions have the same edits or fail alike. -/
structure ActsAs (rule other : Rule) : Prop where
  test_eq : ∀ query tables, other.test? query tables = rule.test? query tables
  resolveEdits_eq : ∀ (action : CandidateAction) (source : DocumentSource),
    (action.withRule other).resolveEdits source = (action.withRule rule).resolveEdits source

namespace ActsAs

variable {rule other : Rule}

/-- The actions offered are the same but for the rule they name. -/
theorem offer? (hacts : rule.ActsAs other) (language : String) (query : Query) (tables : Tables) :
    Provider.offer? language query tables other =
      (Provider.offer? language query tables rule).map (·.withRule other) := by
  rw [Provider.offer?, Provider.offer?, hacts.test_eq, Option.map_map]
  rfl

theorem resolve (hacts : rule.ActsAs other) (e : Engine) (action : CandidateAction)
    (source : DocumentSource) :
    e.resolve (action.withRule other) source =
      ((e.resolve (action.withRule rule) source).1,
        (e.resolve (action.withRule rule) source).2.withRule other) := by
  have hlanguage : (action.withRule other).language = (action.withRule rule).language := rfl
  rw [Engine.resolve, Engine.resolve, hacts.resolveEdits_eq, hlanguage]
  cases e.isActive (action.withRule rule).language with
  | false => rfl
  | true => cases (action.withRule rule).resolveEdits source <;> rfl

/-- Invoked, they say the same and leave the same workspace. -/
theorem invoke (hacts : rule.ActsAs other) (e : Engine) (action : CandidateAction)
    (w : Workspace) :
    e.invoke (action.withRule other) w =
      (e.invoke (action.withRule rule) w).map (·.withRule other) := by
  have hresolve := hacts.resolve e action w.source
  have hedit : ((e.resolve (action.withRule rule) w.source).2.withRule other).edit =
      (e.resolve (action.withRule rule) w.source).2.edit := rfl
  simp only [Engine.invoke, hresolve, hedit]
  cases Workspace.applyAttached _ _ <;> rfl

end ActsAs

/-- The rule without a default file, but with that file on the steps that name none. -/
def writtenOut (rule : Rule) (file : String) : Rule :=
  { rule with defaultFile := none, steps := rule.steps.map (·.orInFile file) }

variable (rule : Rule) (file : String)

/-- No rule with a default file is withheld from a query because its text is there. -/
theorem presentText?_withDefaultFile : (rule.withDefaultFile file).presentText? = none := by
  apply Option.eq_none_iff_forall_ne_some.mpr
  intro text htext
  obtain ⟨step, hinserts, _⟩ := exists_of_presentText? htext
  cases hinserts.defaultFile

/-- Nor is one whose steps all name a file. -/
theorem presentText?_writtenOut : (rule.writtenOut file).presentText? = none := by
  apply Option.eq_none_iff_forall_ne_some.mpr
  intro text htext
  obtain ⟨step, hinserts, _⟩ := exists_of_presentText? htext
  have hmem : step ∈ rule.steps.map (·.orInFile file) := by
    have hsteps : rule.steps.map (·.orInFile file) = [step] := hinserts.steps
    simp [hsteps]
  obtain ⟨plain, _, rfl⟩ := List.mem_map.mp hmem
  have htarget := hinserts.target
  simp [EditStep.orInFile] at htarget

theorem actsAs_writtenOut : (rule.withDefaultFile file).ActsAs (rule.writtenOut file) where
  test_eq query tables := by
    have hevidence : (rule.writtenOut file).evidence? query =
        (rule.withDefaultFile file).evidence? query := rfl
    rw [test?, test?, hevidence, presentText?_writtenOut, presentText?_withDefaultFile]
    rfl
  resolveEdits_eq action source := by
    rw [CandidateAction.resolveEdits, CandidateAction.resolveEdits]
    cases source.active with
    | none => rfl
    | some active =>
        let ctx := (action.withRule (rule.withDefaultFile file)).context source active
        have hfile : ctx.defaultFile = some (ctx.renderer.render file) := rfl
        exact StepContext.resolveFrom_orInFile hfile .empty rule.steps

theorem validateFrom_orInFile (index : Nat) (steps : List EditStep) :
    validateFrom index (steps.map (·.orInFile file)) = validateFrom index steps := by
  induction steps generalizing index with
  | nil => rfl
  | cons step rest ih =>
      rw [List.map_cons, validateFrom, validateFrom, EditStep.validate_orInFile, ih]

/-- A list of steps with the file on them is a rule, or malformed, as it is without. -/
theorem build_orInFile (title : String) (steps : List EditStep) (explicit : Bool) :
    build title (steps.map (·.orInFile file)) explicit =
      (build title steps explicit).map (·.writtenOut file) := by
  have hnormal : (steps.map (·.orInFile file)).map EditStep.normalize =
      (steps.map EditStep.normalize).map (·.orInFile file) := by
    rw [List.map_map, List.map_map]
    exact List.map_congr_left fun step _ => step.normalize_orInFile file
  rw [build, build, hnormal, List.isEmpty_map]
  cases steps.isEmpty with
  | true => rfl
  | false =>
      simp only [Bool.false_eq_true, ↓reduceIte, validateFrom_orInFile]
      cases validateFrom 0 (steps.map EditStep.normalize) <;> rfl

/-- A default file is the same as that file on every step that names none: the rules match alike,
are offered alike and invoked alike, and steps that make a rule make one either way. -/
theorem default_file_written_out :
    (rule.withDefaultFile file).ActsAs (rule.writtenOut file) ∧
      (∀ language query tables,
        Provider.offer? language query tables (rule.writtenOut file) =
          (Provider.offer? language query tables (rule.withDefaultFile file)).map
            (·.withRule (rule.writtenOut file))) ∧
      (∀ (e : Engine) (action : CandidateAction) (w : Workspace),
        e.invoke (action.withRule (rule.writtenOut file)) w =
          (e.invoke (action.withRule (rule.withDefaultFile file)) w).map
            (·.withRule (rule.writtenOut file))) ∧
      ∀ title steps explicit,
        build title (steps.map (·.orInFile file)) explicit =
          (build title steps explicit).map (·.writtenOut file) := by
  have hacts := rule.actsAs_writtenOut file
  exact ⟨hacts, hacts.offer?, hacts.invoke, build_orInFile file⟩

end Rule

end QuickFix
