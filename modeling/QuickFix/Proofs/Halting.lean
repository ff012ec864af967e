import Mathlib
import QuickFix.Proofs.Resolution

/-!
The steps that a resolution comes to. Each advance that goes on leaves one step behind, so the step
at an index is reached after as many advances, and by then the edits of the steps in front of it
were queued in their order. Whether a resolution ends at a step is told by that step and the next
one: nothing past these has a say.
-/

namespace QuickFix

namespace WorkspaceEdit

/-- Queues edits one after the other, each behind those of its path. -/
def pushAll (edit : WorkspaceEdit) (made : List (Path × TextEdit)) : WorkspaceEdit :=
  made.foldl (fun edit one => edit.push one.1 one.2) edit

theorem pushAll_append (edit : WorkspaceEdit) (made more : List (Path × TextEdit)) :
    edit.pushAll (made ++ more) = (edit.pushAll made).pushAll more := List.foldl_append

theorem editsFor_pushAll (edit : WorkspaceEdit) (made : List (Path × TextEdit)) (path : Path) :
    (edit.pushAll made).editsFor path = edit.editsFor path ++
      (made.filter fun one => one.1.components = path.components).map Prod.snd := by
  induction made generalizing edit with
  | nil => simp [pushAll]
  | cons one rest ih =>
      have hrest := ih (edit.push one.1 one.2)
      rw [editsFor_push] at hrest
      rw [pushAll, List.foldl_cons]
      refine hrest.trans ?_
      by_cases hpath : one.1.components = path.components
      · simp [hpath]
      · simp [hpath]

theorem count_pushAll (edit : WorkspaceEdit) (made : List (Path × TextEdit)) :
    (edit.pushAll made).count = edit.count + made.length := by
  induction made generalizing edit with
  | nil => rfl
  | cons one rest ih =>
      have hrest := ih (edit.push one.1 one.2)
      rw [count_push] at hrest
      rw [pushAll, List.foldl_cons, List.length_cons]
      exact hrest.trans (by omega)

end WorkspaceEdit

namespace StepContext

variable {ctx : StepContext} {s t : Standing} {i h : Nat} {r : ResolvedEdits}

/-- Where a resolution stands at the step of an index, if it comes to that step. -/
def standing? (ctx : StepContext) : Nat → Standing → Option Standing
  | 0, s => some s
  | i + 1, s =>
    match ctx.advance s with
    | .onward t => standing? ctx i t
    | _ => none

theorem standing?_succ_eq_some_iff :
    ctx.standing? (i + 1) s = some t ↔ ∃ u, ctx.Passes s u ∧ ctx.standing? i u = some t := by
  simp only [standing?, Passes]
  cases hadvance : ctx.advance s with
  | onward u => simp
  | failed e => simp
  | ended r => simp

theorem reaches_iff : ctx.Reaches s t ↔ ∃ i, ctx.standing? i s = some t := by
  constructor
  · intro hreach
    induction hreach using Relation.ReflTransGen.head_induction_on with
    | refl => exact ⟨0, rfl⟩
    | head hpass _ ih =>
        obtain ⟨i, hi⟩ := ih
        exact ⟨i + 1, standing?_succ_eq_some_iff.mpr ⟨_, hpass, hi⟩⟩
  · rintro ⟨i, hi⟩
    induction i generalizing s with
    | zero =>
        obtain rfl := Option.some.inj hi
        exact .refl
    | succ i ih =>
        obtain ⟨u, hpass, hu⟩ := standing?_succ_eq_some_iff.mp hi
        exact .head hpass (ih hu)

/-- What is left at the step of an index begins with that step. -/
theorem steps_of_standing? (hstanding : ctx.standing? i s = some t) :
    i ≤ s.steps.length ∧ t.steps = s.steps.drop i := by
  induction i generalizing s with
  | zero =>
      obtain rfl := Option.some.inj hstanding
      exact ⟨Nat.zero_le _, rfl⟩
  | succ i ih =>
      obtain ⟨u, hpass, hu⟩ := standing?_succ_eq_some_iff.mp hstanding
      obtain ⟨step, _, hsteps, _⟩ := (passes_iff ctx s u).mp hpass
      rw [hsteps, List.drop_succ_cons, List.length_cons]
      exact ⟨Nat.succ_le_succ (ih hu).1, (ih hu).2⟩

/-- To come to a step is to come to all in front of it. -/
theorem standing?_of_lt {j : Nat} (hstanding : ctx.standing? i s = some t) (hlt : j < i) :
    ∃ u v, ctx.standing? j s = some u ∧ ctx.Passes u v := by
  induction j generalizing s i with
  | zero =>
      obtain ⟨i, rfl⟩ : ∃ k, i = k + 1 := ⟨i - 1, by omega⟩
      obtain ⟨u, hpass, _⟩ := standing?_succ_eq_some_iff.mp hstanding
      exact ⟨s, u, rfl, hpass⟩
  | succ j ih =>
      obtain ⟨i, rfl⟩ : ∃ k, i = k + 1 := ⟨i - 1, by omega⟩
      obtain ⟨u, hpass, hu⟩ := standing?_succ_eq_some_iff.mp hstanding
      obtain ⟨v, w, hv, hw⟩ := ih hu (by omega)
      exact ⟨v, w, standing?_succ_eq_some_iff.mpr ⟨u, hpass, hv⟩, hw⟩

/-- The edit that a step makes where it is reached, with the path of its document. -/
def made? (ctx : StepContext) (step : EditStep) : Option (Path × TextEdit) :=
  match ctx.target step with
  | .error _ => none
  | .ok d =>
    match ctx.take d step with
    | .taken (some made) => some (d.path, made)
    | _ => none

theorem made?_of_taken {step : EditStep} {d : Document} {made : Option TextEdit}
    (htarget : ctx.target step = .ok d) (htake : ctx.take d step = .taken made)
    (edit : WorkspaceEdit) : queue edit d made = edit.pushAll (ctx.made? step).toList := by
  simp only [made?, htarget, htake]
  cases made <;> rfl

/-- A step that is skipped makes no edit, and neither does one without a text. -/
theorem made?_of_not_taken {step : EditStep} {d : Document} (htarget : ctx.target step = .ok d)
    (htake : ∀ made, ctx.take d step ≠ .taken made) : ctx.made? step = none := by
  simp only [made?, htarget]
  cases houtcome : ctx.take d step with
  | skipped => rfl
  | halted => rfl
  | taken made => exact absurd houtcome (htake made)

theorem filterMap_take_one {step : EditStep} {rest : List EditStep}
    (hsteps : s.steps = step :: rest) :
    (s.steps.take 1).filterMap ctx.made? = (ctx.made? step).toList := by
  rw [hsteps, List.take_succ_cons, List.take_zero]
  cases hmade : ctx.made? step <;> simp [hmade]

theorem edit_of_passes (hpass : ctx.Passes s t) :
    t.edit = s.edit.pushAll ((s.steps.take 1).filterMap ctx.made?) := by
  obtain ⟨step, d, hsteps, htarget, hcase⟩ := (passes_iff ctx s t).mp hpass
  rw [filterMap_take_one hsteps]
  rcases hcase with ⟨htake, hedit⟩ | ⟨made, htake, _, hedit⟩
  · rw [made?_of_not_taken htarget (by simp [htake]), hedit]
    rfl
  · rw [hedit, made?_of_taken htarget htake]

theorem edit_of_ended (hended : ctx.advance s = .ended r) :
    r.edit = s.edit.pushAll ((s.steps.take 1).filterMap ctx.made?) := by
  rcases (advance_eq_ended_iff ctx s r).mp hended with
    ⟨hsteps, rfl⟩ | ⟨step, rest, d, hsteps, htarget, hcase⟩
  · rw [hsteps]
    rfl
  · rw [filterMap_take_one hsteps]
    rcases hcase with ⟨htake, rfl⟩ | ⟨made, _, htake, _, rfl⟩
    · rw [made?_of_not_taken htarget (by simp [htake])]
      rfl
    · exact made?_of_taken htarget htake s.edit

/-- At the step of an index the edits of the steps in front of it are queued. -/
theorem edit_of_standing? (hstanding : ctx.standing? i s = some t) :
    t.edit = s.edit.pushAll ((s.steps.take i).filterMap ctx.made?) := by
  induction i generalizing s with
  | zero =>
      obtain rfl := Option.some.inj hstanding
      rfl
  | succ i ih =>
      obtain ⟨u, hpass, hu⟩ := standing?_succ_eq_some_iff.mp hstanding
      obtain ⟨step, _, hsteps, _⟩ := (passes_iff ctx s u).mp hpass
      rw [ih hu, edit_of_passes hpass, ← WorkspaceEdit.pushAll_append, ← List.filterMap_append]
      rw [hsteps]
      rfl

/-- A continuation looks at the next step and at no other. -/
theorem stopsBehind_congr {rest rest' : List EditStep} (hnext : rest.take 1 = rest'.take 1)
    (d : Document) (step : EditStep) :
    ctx.stopsBehind d step rest = ctx.stopsBehind d step rest' := by
  cases rest with
  | nil =>
      cases rest' with
      | nil => rfl
      | cons next' more' => simp at hnext
  | cons next more =>
      cases rest' with
      | nil => simp at hnext
      | cons next' more' =>
          simp only [List.take_succ_cons, List.take_zero, List.cons.injEq, and_true] at hnext
          subst hnext
          rfl

/-- Whether two resolutions stand alike, as far as some steps ahead: the same edits are queued, and
the steps that are left begin alike. -/
structure Standing.Alike (count : Nat) (s t : Standing) : Prop where
  edit : s.edit = t.edit
  steps : s.steps.take count = t.steps.take count

theorem Standing.Alike.exists_rest {step : EditStep} {rest : List EditStep}
    (halike : Standing.Alike (i + 2) s t) (hsteps : s.steps = step :: rest) :
    ∃ rest', t.steps = step :: rest' ∧ rest.take (i + 1) = rest'.take (i + 1) ∧
      rest.take 1 = rest'.take 1 := by
  have htake := halike.steps
  rw [hsteps, List.take_succ_cons] at htake
  cases hsteps' : t.steps with
  | nil => simp [hsteps'] at htake
  | cons step' rest' =>
      rw [hsteps', List.take_succ_cons, List.cons.injEq] at htake
      obtain ⟨rfl, hrest⟩ := htake
      have hnext := congrArg (List.take 1) hrest
      rw [List.take_take, List.take_take, Nat.min_eq_left (by omega)] at hnext
      exact ⟨rest', rfl, hrest, hnext⟩

/-- Of two resolutions that stand alike up to the next step but one, both end or none. -/
theorem ended_of_alike (halike : Standing.Alike (i + 2) s t) (hleft : s.steps ≠ [])
    (hended : ctx.advance s = .ended r) : t.steps ≠ [] ∧ ctx.advance t = .ended r := by
  rcases (advance_eq_ended_iff ctx s r).mp hended with
    ⟨hnil, _⟩ | ⟨step, rest, d, hsteps, htarget, hcase⟩
  · exact absurd hnil hleft
  · obtain ⟨rest', hsteps', _, hnext⟩ := halike.exists_rest hsteps
    rw [stopsBehind_congr hnext, halike.edit] at hcase
    exact ⟨by simp [hsteps'], (advance_eq_ended_iff ctx t r).mpr
      (.inr ⟨step, rest', d, hsteps', htarget, hcase⟩)⟩

/-- Both go on or none, and then they stand alike up to one step less. -/
theorem passes_of_alike {u : Standing} (halike : Standing.Alike (i + 2) s t)
    (hpass : ctx.Passes s u) : ∃ v, ctx.Passes t v ∧ Standing.Alike (i + 1) u v := by
  obtain ⟨step, d, hsteps, htarget, hcase⟩ := (passes_iff ctx s u).mp hpass
  obtain ⟨rest', hsteps', hrest, hnext⟩ := halike.exists_rest hsteps
  rw [stopsBehind_congr hnext, halike.edit] at hcase
  exact ⟨⟨u.edit, rest'⟩, (passes_iff ctx t _).mpr ⟨step, d, hsteps', htarget, hcase⟩, rfl, hrest⟩

/-- Up to a step that both come to, two resolutions that start alike stand alike. -/
theorem standing?_of_alike (halike : Standing.Alike (h + 2) s t) {u : Standing}
    (hstanding : ctx.standing? h s = some u) :
    ∃ v, ctx.standing? h t = some v ∧ Standing.Alike 2 u v := by
  induction h generalizing s t with
  | zero =>
      obtain rfl := Option.some.inj hstanding
      exact ⟨t, rfl, halike⟩
  | succ h ih =>
      obtain ⟨w, hpass, hw⟩ := standing?_succ_eq_some_iff.mp hstanding
      obtain ⟨x, hpass', halike'⟩ := passes_of_alike halike hpass
      obtain ⟨v, hv, halike''⟩ := ih halike' hw
      exact ⟨v, standing?_succ_eq_some_iff.mpr ⟨x, hpass', hv⟩, halike''⟩

/-- Whether a resolution comes to the step of an index and ends there, before all steps are taken.
-/
def LeavesAt (ctx : StepContext) (steps : List EditStep) (h : Nat) (r : ResolvedEdits) : Prop :=
  ∃ t, ctx.standing? h ⟨.empty, steps⟩ = some t ∧ t.steps ≠ [] ∧ ctx.advance t = .ended r

theorem LeavesAt.resolveFrom {steps : List EditStep} (hleaves : ctx.LeavesAt steps h r) :
    ctx.resolveFrom .empty steps = .ok r := by
  obtain ⟨t, hstanding, _, hended⟩ := hleaves
  exact (resolveFrom_eq_ok_iff ctx ⟨.empty, steps⟩ r).mpr
    ⟨t, reaches_iff.mpr ⟨h, hstanding⟩, hended⟩

/-- What stands past the next step but one has no say. -/
theorem LeavesAt.of_take_eq {steps steps' : List EditStep} (hleaves : ctx.LeavesAt steps h r)
    (hsteps : steps.take (h + 2) = steps'.take (h + 2)) : ctx.LeavesAt steps' h r := by
  obtain ⟨t, hstanding, hleft, hended⟩ := hleaves
  have hstart : Standing.Alike (h + 2) ⟨.empty, steps⟩ ⟨.empty, steps'⟩ := ⟨rfl, hsteps⟩
  obtain ⟨v, hv, halike⟩ := standing?_of_alike hstart hstanding
  obtain ⟨hleft', hended'⟩ := ended_of_alike halike hleft hended
  exact ⟨v, hv, hleft', hended'⟩

/-- A resolution that does not leave at a step takes all of them. -/
theorem leavesAt_or_through {steps : List EditStep} (hok : ctx.resolveFrom .empty steps = .ok r) :
    (∃ h, ctx.LeavesAt steps h r) ∨
      ctx.standing? steps.length ⟨.empty, steps⟩ = some ⟨r.edit, []⟩ ∧ r.needsReapply = false := by
  obtain ⟨t, hreach, hended⟩ := (resolveFrom_eq_ok_iff ctx ⟨.empty, steps⟩ r).mp hok
  obtain ⟨i, hstanding⟩ := reaches_iff.mp hreach
  by_cases hleft : t.steps = []
  · right
    have hall := steps_of_standing? hstanding
    simp only [hleft] at hall
    have hi : i = steps.length := Nat.le_antisymm hall.1 (List.drop_eq_nil_iff.mp hall.2.symm)
    rcases (advance_eq_ended_iff ctx t r).mp hended with ⟨_, rfl⟩ | ⟨_, _, _, hcons, _⟩
    · rw [← hi, hstanding, ← hleft]
      exact ⟨rfl, rfl⟩
    · simp [hleft] at hcons
  · exact .inl ⟨i, t, hstanding, hleft, hended⟩

variable {steps : List EditStep}

/-- Whether a resolution comes to the step of an index. -/
def ComesTo (ctx : StepContext) (steps : List EditStep) (i : Nat) : Prop :=
  ∃ t, ctx.standing? i ⟨.empty, steps⟩ = some t ∧ t.steps ≠ []

theorem comesTo_of_lt (hstanding : ctx.standing? i ⟨.empty, steps⟩ = some t) {j : Nat}
    (hlt : j < i) : ctx.ComesTo steps j ∧
      ∀ step, steps[j]? = some step → ∃ d, ctx.target step = .ok d := by
  obtain ⟨u, v, hu, hpass⟩ := standing?_of_lt hstanding hlt
  obtain ⟨step, d, hsteps, htarget, _⟩ := (passes_iff ctx u v).mp hpass
  refine ⟨⟨u, hu, by simp [hsteps]⟩, fun step' hstep' => ⟨d, ?_⟩⟩
  have hdrop := (steps_of_standing? hu).2
  rw [hsteps] at hdrop
  rw [← List.head?_drop, ← hdrop, List.head?_cons, Option.some.injEq] at hstep'
  exact hstep' ▸ htarget

/-- A resolution succeeds with the edits of the steps it comes to, queued in their order. -/
theorem edit_of_resolveFrom (hok : ctx.resolveFrom .empty steps = .ok r) :
    ∃ count ≤ steps.length, (∀ i < count, ctx.ComesTo steps i) ∧
      r.edit = WorkspaceEdit.empty.pushAll ((steps.take count).filterMap ctx.made?) := by
  rcases leavesAt_or_through hok with ⟨h, t, hstanding, hleft, hended⟩ | ⟨hthrough, _⟩
  · obtain ⟨_, hsteps⟩ := steps_of_standing? hstanding
    refine ⟨h + 1, ?_, fun i hi => ?_, ?_⟩
    · by_contra hshort
      exact hleft (hsteps.trans (List.drop_eq_nil_of_le (Nat.le_of_not_lt hshort)))
    · rcases Nat.lt_or_eq_of_le (Nat.lt_succ_iff.mp hi) with hlt | rfl
      · exact (comesTo_of_lt hstanding hlt).1
      · exact ⟨t, hstanding, hleft⟩
    · rw [edit_of_ended hended, edit_of_standing? hstanding, ← WorkspaceEdit.pushAll_append,
        ← List.filterMap_append, hsteps, List.take_add]
  · exact ⟨steps.length, Nat.le_refl _, fun i hi => (comesTo_of_lt hthrough hi).1,
      edit_of_standing? hthrough⟩

/-- A resolution fails at the first step it comes to whose document cannot be told. -/
theorem resolveFrom_eq_error_iff_comesTo {e : ResolveError} :
    ctx.resolveFrom .empty steps = .error e ↔
      ∃ i step, steps[i]? = some step ∧ ctx.ComesTo steps i ∧ ctx.target step = .error e ∧
        ∀ j < i, ∀ before, steps[j]? = some before → ∃ d, ctx.target before = .ok d := by
  constructor
  · intro herror
    obtain ⟨t, hreach, hfailed⟩ := (resolveFrom_eq_error_iff ctx ⟨.empty, steps⟩ e).mp herror
    obtain ⟨i, hstanding⟩ := reaches_iff.mp hreach
    obtain ⟨step, rest, hleft, htarget⟩ := (advance_eq_failed_iff ctx t e).mp hfailed
    obtain ⟨_, hsteps⟩ := steps_of_standing? hstanding
    refine ⟨i, step, ?_, ⟨t, hstanding, by simp [hleft]⟩, htarget,
      fun j hj => (comesTo_of_lt hstanding hj).2⟩
    rw [← List.head?_drop, ← hsteps, hleft, List.head?_cons]
  · rintro ⟨i, step, hstep, ⟨t, hstanding, _⟩, htarget, _⟩
    obtain ⟨_, hsteps⟩ := steps_of_standing? hstanding
    rw [← List.head?_drop, ← hsteps] at hstep
    obtain ⟨rest, hleft⟩ := List.head?_eq_some_iff.mp hstep
    exact (resolveFrom_eq_error_iff ctx ⟨.empty, steps⟩ e).mpr ⟨t, reaches_iff.mpr ⟨i, hstanding⟩,
      (advance_eq_failed_iff ctx t e).mpr ⟨step, rest, hleft, htarget⟩⟩

end StepContext

namespace CandidateAction

/-- Whether the resolution of an action comes to the step of an index and ends there, before all
steps are taken. -/
def LeavesAt (action : CandidateAction) (source : DocumentSource) (h : Nat) (r : ResolvedEdits) :
    Prop :=
  ∃ active, source.active = some active ∧
    (action.context source active).LeavesAt action.rule.steps h r

/-- Whether two actions have the same context, and the same steps, or lack them alike, up to an
index. -/
structure AgreesTo (action other : CandidateAction) (last : Nat) : Prop where
  evidence : action.evidence = other.evidence
  tables : action.tables = other.tables
  defaultFile : action.rule.defaultFile = other.rule.defaultFile
  steps : ∀ i ≤ last, action.rule.steps[i]? = other.rule.steps[i]?

variable {action other : CandidateAction} {source : DocumentSource} {active : Document} {h : Nat}
  {r : ResolvedEdits}

theorem AgreesTo.context_eq (hagrees : action.AgreesTo other h) (source : DocumentSource)
    (active : Document) : action.context source active = other.context source active := by
  rw [context, context, hagrees.evidence, hagrees.tables, hagrees.defaultFile]

theorem AgreesTo.take_eq (hagrees : action.AgreesTo other h) :
    action.rule.steps.take (h + 1) = other.rule.steps.take (h + 1) := by
  apply List.ext_getElem?
  intro i
  rw [List.getElem?_take, List.getElem?_take]
  split
  · exact hagrees.steps i (by omega)
  · rfl

theorem LeavesAt.resolveEdits (hleaves : action.LeavesAt source h r) :
    action.resolveEdits source = .ok r := by
  obtain ⟨active, hactive, hleaves⟩ := hleaves
  rw [CandidateAction.resolveEdits, hactive]
  exact hleaves.resolveFrom

theorem LeavesAt.of_agreesTo (hleaves : action.LeavesAt source h r)
    (hagrees : action.AgreesTo other (h + 1)) : other.LeavesAt source h r := by
  obtain ⟨active, hactive, hleaves⟩ := hleaves
  rw [hagrees.context_eq] at hleaves
  exact ⟨active, hactive, hleaves.of_take_eq hagrees.take_eq⟩

/-- How the steps of an action come to a resolution where a document is active. -/
structure StepByStep (action : CandidateAction) (source : DocumentSource) (active : Document) :
    Prop where
  /-- A resolution leaves at some step, or takes them all. -/
  ends : ∀ r, action.resolveEdits source = .ok r → (∃ h, action.LeavesAt source h r) ∨
    (∀ i < action.rule.steps.length,
      (action.context source active).ComesTo action.rule.steps i) ∧ r.needsReapply = false
  /-- Where it leaves at a step, any action that agrees up to the next one has the same edits. -/
  halts : ∀ h r, action.LeavesAt source h r → ∀ other, action.AgreesTo other (h + 1) →
    other.LeavesAt source h r ∧ other.resolveEdits source = .ok r
  /-- The edits are those of the steps it comes to, in their order. -/
  makes : ∀ r, action.resolveEdits source = .ok r → ∃ count ≤ action.rule.steps.length,
    (∀ i < count, (action.context source active).ComesTo action.rule.steps i) ∧
      r.edit.count ≤ count ∧
      ∀ path, r.edit.editsFor path =
        (((action.rule.steps.take count).filterMap (action.context source active).made?).filter
          fun one => one.1.components = path.components).map Prod.snd
  /-- A step that is skipped makes none. -/
  skips : ∀ step d, (action.context source active).target step = .ok d →
    (action.context source active).take d step = .skipped →
    (action.context source active).made? step = none
  /-- It fails at the first step it comes to whose document cannot be told. -/
  fails : ∀ e, action.resolveEdits source = .error e ↔
    ∃ i step, action.rule.steps[i]? = some step ∧
      (action.context source active).ComesTo action.rule.steps i ∧
      (action.context source active).target step = .error e ∧
      ∀ j < i, ∀ before, action.rule.steps[j]? = some before →
        ∃ d, (action.context source active).target before = .ok d

/-- What comes of an action is told by the steps it comes to, one after the other, and where it
leaves at a step nothing past the next one matters. -/
theorem stepByStep_of_active (hactive : source.active = some active) :
    action.StepByStep source active := by
  have hresolve : action.resolveEdits source =
      (action.context source active).resolveFrom .empty action.rule.steps := by
    rw [resolveEdits, hactive]
  refine ⟨fun r hok => ?_, fun h r hleaves other hagrees => ?_, fun r hok => ?_,
    fun step d htarget hskipped => ?_, fun e => ?_⟩
  · rw [hresolve] at hok
    rcases StepContext.leavesAt_or_through hok with ⟨h, hleaves⟩ | ⟨hthrough, hreapply⟩
    · exact .inl ⟨h, active, hactive, hleaves⟩
    · exact .inr ⟨fun i hi => (StepContext.comesTo_of_lt hthrough hi).1, hreapply⟩
  · have hother := hleaves.of_agreesTo hagrees
    exact ⟨hother, hother.resolveEdits⟩
  · rw [hresolve] at hok
    obtain ⟨count, hcount, hcomes, hedit⟩ := StepContext.edit_of_resolveFrom hok
    refine ⟨count, hcount, hcomes, ?_, fun path => ?_⟩
    · have hmade := List.length_filterMap_le (action.context source active).made?
        (action.rule.steps.take count)
      have htake := List.length_take_le count action.rule.steps
      rw [hedit, WorkspaceEdit.count_pushAll, WorkspaceEdit.count_empty]
      omega
    · rw [hedit, WorkspaceEdit.editsFor_pushAll]
      rfl
  · exact StepContext.made?_of_not_taken htarget (by simp [hskipped])
  · rw [hresolve]
    exact StepContext.resolveFrom_eq_error_iff_comesTo

end CandidateAction

namespace HaltingWitness

def active : Document := ⟨⟨"/a"⟩, "rust", 0, ['b']⟩

def source : DocumentSource :=
  ⟨some active, [active], DocumentSource.scan [active], fun _ => none⟩

def action (steps : List EditStep) : CandidateAction :=
  ⟨"t", "rust", active.path, ⟨"t", [], none, steps, none, true⟩, ⟨none, none⟩, {}, none⟩

/-- The first step has nothing to do, and the second one asks to apply the action again. -/
def steps : List EditStep :=
  [.insert "b", (EditStep.insert "c").withContinuation .always, .insert "d"]

/-- A step in a document that is not open. -/
def elsewhere : EditStep := (EditStep.insert "e").inFile "f"

def resolved : ResolvedEdits := ⟨.push .empty active.path (.insert ⟨0, 0⟩ "c"), true⟩

theorem leavesAt_second : (action steps).LeavesAt source 1 resolved :=
  ⟨active, rfl, ⟨.empty, steps.drop 1⟩, by cbv, by simp [steps], by cbv⟩

theorem agreesTo_longer : (action steps).AgreesTo (action (steps ++ [elsewhere])) 2 where
  evidence := rfl
  tables := rfl
  defaultFile := rfl
  steps _ hi := (List.getElem?_append_left (Nat.lt_succ_of_le hi)).symm

theorem target_elsewhere :
    ((action steps).context source active).target elsewhere =
      .error (.unresolvedDocument ⟨"/f"⟩) := by cbv

/-- A last step that could not be taken changes nothing where the second one leaves. -/
theorem stepByStep_longer :
    source.active = some active ∧ (action steps).LeavesAt source 1 resolved ∧
      (action steps).AgreesTo (action (steps ++ [elsewhere])) 2 ∧
      ((action steps).context source active).target elsewhere =
        .error (.unresolvedDocument ⟨"/f"⟩) ∧
      (action (steps ++ [elsewhere])).resolveEdits source = .ok resolved := by
  have hsteps : (action steps).StepByStep source active :=
    CandidateAction.stepByStep_of_active rfl
  exact ⟨rfl, leavesAt_second, agreesTo_longer, target_elsewhere,
    (hsteps.halts 1 resolved leavesAt_second _ agreesTo_longer).2⟩

end HaltingWitness

end QuickFix
