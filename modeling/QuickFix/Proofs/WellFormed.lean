import QuickFix.Action.Resolve
import QuickFix.Proofs.Occurrence
import QuickFix.Settings.Schema

/-!
Rules as settings make them. What is empty in the settings is taken for missing, and what is left is
checked when the rule is built, so every rule has something to do and something to look for. A
pattern without placeholders is read at that time once and for all: rendering leaves it as it is.
-/

namespace QuickFix

/-- Whether a text has what may open a placeholder. -/
def Template.Templated (text : String) : Prop :=
  ['\x7b', '\x7b'] <:+: text.toList ∨ ['$', '\x7b'] <:+: text.toList

theorem Template.hasPlaceholders_iff {text : String} :
    hasPlaceholders text = true ↔ Templated text := by
  rw [hasPlaceholders, Bool.or_eq_true, Text.occurs_iff, Text.occurs_iff]
  rfl

theorem Renderer.render_of_not_templated (r : Renderer) {text : String}
    (hplain : ¬ Template.Templated text) : r.render text = text := by
  rw [render, if_neg fun hholds => hplain (Template.hasPlaceholders_iff.mp hholds)]

section Except

variable {ε α β : Type}

theorem bind_eq_ok_iff {x : Except ε α} {f : α → Except ε β} {b : β} :
    x >>= f = .ok b ↔ ∃ a, x = .ok a ∧ f a = .ok b := by
  cases x with
  | error e => exact ⟨nofun, nofun⟩
  | ok a =>
      constructor
      · exact fun hok => ⟨a, rfl, hok⟩
      · rintro ⟨a', ha', hok⟩
        obtain rfl := Except.ok.inj ha'
        exact hok

theorem exists_of_mem_mapM {f : α → Except ε β} {l : List α} {made : List β}
    (hok : l.mapM f = .ok made) {b : β} (hb : b ∈ made) : ∃ a ∈ l, f a = .ok b := by
  induction l generalizing made with
  | nil =>
      obtain rfl := Except.ok.inj hok
      cases hb
  | cons a rest ih =>
      rw [List.mapM_cons] at hok
      obtain ⟨first, hfirst, hok⟩ := bind_eq_ok_iff.mp hok
      obtain ⟨others, hothers, hok⟩ := bind_eq_ok_iff.mp hok
      obtain rfl := Except.ok.inj hok
      rcases List.mem_cons.mp hb with rfl | hmem
      · exact ⟨a, List.mem_cons_self, hfirst⟩
      · obtain ⟨a', ha', hmade⟩ := ih hothers hmem
        exact ⟨a', List.mem_cons_of_mem a ha', hmade⟩

end Except

namespace EditStep

variable {step : EditStep}

/-- All that a step looks for. -/
def patterns (step : EditStep) : List String := step.operationPatterns ++ step.conditionPatterns

/-- Whether all that a step names says something: its file, its patterns and its condition. -/
structure Speaks (step : EditStep) : Prop where
  target : step.target ≠ some ""
  insert : ∀ anchor locate, step.operation = .insert anchor locate → locate ≠ some ""
  replace : ∀ locate stop, step.operation = .replace locate stop → "" ∉ locate ∧ stop ≠ some ""
  condition : ∀ c, step.condition = some c → c.find ≠ [] ∧ "" ∉ c.find ∧ c.stop ≠ some ""

/-- Whether there is a text to put somewhere and a place to look for, and whether whatever needs no
rendering is a regular expression. -/
structure WellFormed (step : EditStep) : Prop extends Speaks step where
  text : step.text ≠ ""
  start : ∀ anchor, step.operation = .insert anchor none → anchor = .start
  locate : ∀ locate stop, step.operation = .replace locate stop → locate ≠ []
  plain : ∀ p ∈ step.patterns, ¬ Template.Templated p →
    ∀ r : Renderer, r.render p = p ∧ ∃ re, Regex.compile? (r.render p) = some re

theorem speaks_insert (text : String) : (EditStep.insert text).Speaks where
  target := nofun
  insert _ _ hop := by
    cases hop
    exact nofun
  replace _ _ := nofun
  condition _ := nofun

theorem speaks_replaceChain {locate : List String} (hlocate : "" ∉ locate) (text : String) :
    (replaceChain locate text).Speaks where
  target := nofun
  insert _ _ := nofun
  replace _ _ hop := by
    cases hop
    exact ⟨hlocate, nofun⟩
  condition _ := nofun

theorem Speaks.of_operation (hspeaks : step.Speaks) {operation : Operation}
    (hinsert : ∀ anchor locate, operation = .insert anchor locate → locate ≠ some "")
    (hreplace : ∀ locate stop, operation = .replace locate stop → "" ∉ locate ∧ stop ≠ some "") :
    { step with operation }.Speaks :=
  ⟨hspeaks.target, hinsert, hreplace, hspeaks.condition⟩

theorem Speaks.anchored (hspeaks : step.Speaks) (anchor : Anchor) {locate : String}
    (hlocate : locate ≠ "") : (step.anchored anchor locate).Speaks := by
  unfold EditStep.anchored
  split
  · refine hspeaks.of_operation (fun _ _ hop => ?_) nofun
    cases hop
    exact fun hempty => hlocate (Option.some.inj hempty)
  · exact hspeaks

theorem Speaks.withReplaceStop (hspeaks : step.Speaks) {stop : String} (hstop : stop ≠ "") :
    (step.withReplaceStop stop).Speaks := by
  unfold EditStep.withReplaceStop
  split
  · rename_i locate old hop
    refine hspeaks.of_operation nofun fun _ _ hnew => ?_
    cases hnew
    exact ⟨(hspeaks.replace locate old hop).1, fun hempty => hstop (Option.some.inj hempty)⟩
  · exact hspeaks

theorem Speaks.inFile (hspeaks : step.Speaks) {file : String} (hfile : file ≠ "") :
    (step.inFile file).Speaks :=
  ⟨fun hempty => hfile (Option.some.inj hempty), hspeaks.insert, hspeaks.replace, hspeaks.condition⟩

theorem Speaks.unlessFound (hspeaks : step.Speaks) {find : List String} {stop : Option String}
    (hfind : find ≠ []) (hempty : "" ∉ find) (hstop : stop ≠ some "") :
    (step.unlessFound find stop).Speaks where
  target := hspeaks.target
  insert := hspeaks.insert
  replace := hspeaks.replace
  condition c hc := by
    obtain rfl := Option.some.inj hc
    exact ⟨hfind, hempty, hstop⟩

theorem Speaks.withContinuation (hspeaks : step.Speaks) (continuation : Continuation) :
    (step.withContinuation continuation).Speaks :=
  ⟨hspeaks.target, hspeaks.insert, hspeaks.replace, hspeaks.condition⟩

theorem Speaks.normalize (hspeaks : step.Speaks) : step.normalize.Speaks := by
  unfold EditStep.normalize
  split
  · refine hspeaks.of_operation (fun _ _ hop => ?_) nofun
    cases hop
    exact nofun
  · exact hspeaks

theorem eq_start_of_normalize {anchor : Anchor}
    (hop : step.normalize.operation = .insert anchor none) : anchor = .start := by
  unfold EditStep.normalize at hop
  split at hop
  · cases hop
    rfl
  · rename_i hother
    exact absurd hop (hother anchor)

theorem exists_of_checkPatterns {patterns : List String} (hok : checkPatterns patterns = .ok ())
    {p : String} (hp : p ∈ patterns) (hplain : ¬ Template.Templated p) :
    ∃ re, Regex.compile? p = some re := by
  induction patterns with
  | nil => cases hp
  | cons q rest ih =>
      by_cases hq : Template.hasPlaceholders q = true
      · rw [checkPatterns, if_pos hq] at hok
        rcases List.mem_cons.mp hp with rfl | hmem
        · exact absurd (Template.hasPlaceholders_iff.mp hq) hplain
        · exact ih hok hmem
      · rw [checkPatterns, if_neg hq, compilePattern] at hok
        cases hre : Regex.compile? q with
        | none => simp [hre] at hok
        | some re =>
            rw [hre] at hok
            rcases List.mem_cons.mp hp with rfl | hmem
            · exact ⟨re, hre⟩
            · exact ih hok hmem

/-- A step that says something is well formed if it passes the check. -/
theorem Speaks.wellFormed_of_validate (hspeaks : step.Speaks) {index : Nat}
    (hok : step.normalize.validate index = .ok ()) : step.normalize.WellFormed := by
  have hnormal := hspeaks.normalize
  have hstart : ∀ anchor, step.normalize.operation = .insert anchor none → anchor = .start :=
    fun _ => eq_start_of_normalize
  generalize step.normalize = normal at hok hnormal hstart ⊢
  unfold validate at hok
  split at hok
  · cases hok
  · rename_i htext
    split at hok
    · cases hok
    · rename_i hlacks
      refine ⟨hnormal, htext, hstart, fun locate stop hop => ?_, fun p hp hplain r => ?_⟩
      · rintro rfl
        simp [lacksPattern, hop] at hlacks
      · rw [r.render_of_not_templated hplain]
        exact ⟨rfl, exists_of_checkPatterns hok hp hplain⟩

end EditStep

namespace StepContext

/-- Whether the patterns of a step that resolution cannot read are all templates, wherever it reads
them: in a row, as a stop, or to tell lines. -/
structure Reads (ctx : StepContext) (step : EditStep) : Prop where
  row : ∀ find, find ⊆ step.patterns → ctx.patterns? find = none →
    ∃ t ∈ find, Template.Templated t
  stop : ∀ t ∈ step.patterns, ctx.stop? (some t) = none → Template.Templated t
  lines : ∀ t ∈ step.patterns, Regex.compile? (ctx.renderer.render t) = none →
    Template.Templated t

theorem exists_of_patterns?_eq_none {ctx : StepContext} {find : List String}
    (hnone : ctx.patterns? find = none) :
    ∃ t ∈ find, Regex.compile? (ctx.renderer.render t) = none := by
  induction find with
  | nil => cases hnone
  | cons t rest ih =>
      cases hre : Regex.compile? (ctx.renderer.render t) with
      | none => exact ⟨t, List.mem_cons_self, hre⟩
      | some re =>
          have hrest : ctx.patterns? rest = none := by
            apply Option.eq_none_iff_forall_ne_some.mpr
            simpa [patterns?, List.mapM_cons, hre] using hnone
          obtain ⟨t', ht', hbad⟩ := ih hrest
          exact ⟨t', List.mem_cons_of_mem t ht', hbad⟩

theorem reads_of_wellFormed (ctx : StepContext) {step : EditStep} (hstep : step.WellFormed) :
    ctx.Reads step := by
  have hplain : ∀ t ∈ step.patterns, Regex.compile? (ctx.renderer.render t) = none →
      Template.Templated t := by
    intro t ht hnone
    refine Classical.byContradiction fun hplain => ?_
    obtain ⟨_, re, hre⟩ := hstep.plain t ht hplain ctx.renderer
    exact nomatch hnone.symm.trans hre
  refine ⟨fun find hfind hnone => ?_, fun t ht hnone => ?_, hplain⟩
  · obtain ⟨t, ht, hbad⟩ := exists_of_patterns?_eq_none hnone
    exact ⟨t, ht, hplain t (hfind ht) hbad⟩
  · exact hplain t ht (Option.map_eq_none_iff.mp hnone)

end StepContext

namespace Rule

/-- Whether a rule has steps, all of them well formed, and its file, if it has one, a name. -/
structure WellFormed (rule : Rule) : Prop where
  steps : rule.steps ≠ []
  defaultFile : rule.defaultFile ≠ some ""
  step : ∀ step ∈ rule.steps, step.WellFormed

theorem exists_validate_of_validateFrom {index : Nat} {steps : List EditStep}
    (hok : validateFrom index steps = .ok ()) {step : EditStep} (hstep : step ∈ steps) :
    ∃ at_, step.validate at_ = .ok () := by
  induction steps generalizing index with
  | nil => cases hstep
  | cons first rest ih =>
      unfold validateFrom at hok
      split at hok
      · rename_i hfirst
        rcases List.mem_cons.mp hstep with rfl | hmem
        · exact ⟨index, hfirst⟩
        · exact ih hok hmem
      · cases hok

theorem build_wellFormed {title : String} {steps : List EditStep} {explicit : Bool} {rule : Rule}
    (hok : build title steps explicit = .ok rule) (hspeaks : ∀ step ∈ steps, step.Speaks) :
    rule.WellFormed ∧ rule.title = title := by
  unfold build at hok
  split at hok
  · cases hok
  · rename_i hne
    dsimp only at hok
    split at hok
    · rename_i hvalid
      obtain rfl := Except.ok.inj hok
      refine ⟨⟨?_, nofun, fun step hstep => ?_⟩, rfl⟩
      · simpa using hne
      · obtain ⟨at_, hat⟩ := exists_validate_of_validateFrom hvalid hstep
        obtain ⟨old, hold, rfl⟩ := List.mem_map.mp hstep
        exact (hspeaks old hold).wellFormed_of_validate hat
    · cases hok

end Rule

namespace Settings

theorem empty_not_mem_nonEmptyPatterns (patterns : Option (List String)) :
    "" ∉ nonEmptyPatterns patterns := by
  simp [nonEmptyPatterns]

theorem ne_of_nonEmpty {text : Option String} {s : String} (hs : nonEmpty text = some s) :
    s ≠ "" := by
  simpa using (Option.filter_eq_some_iff.mp hs).2

theorem nonEmpty_ne (text : Option String) : nonEmpty text ≠ some "" :=
  fun hempty => ne_of_nonEmpty hempty rfl

namespace StepShape

variable {s : StepShape} {step : EditStep}

theorem operationStep_speaks (hok : s.operationStep = .ok step) : step.Speaks := by
  unfold operationStep at hok
  obtain ⟨isReplacement, _, hok⟩ := bind_eq_ok_iff.mp hok
  cases isReplacement with
  | true =>
      have hchain := EditStep.speaks_replaceChain
        (empty_not_mem_nonEmptyPatterns s.replaceFind) (s.text.getD "")
      rw [if_pos rfl] at hok
      cases hstop : nonEmpty s.replaceFindStop with
      | none =>
          rw [hstop] at hok
          exact Except.ok.inj hok ▸ hchain
      | some stop =>
          rw [hstop] at hok
          exact Except.ok.inj hok ▸ hchain.withReplaceStop (ne_of_nonEmpty hstop)
  | false =>
      have hinsert := EditStep.speaks_insert (s.text.getD "")
      rw [if_neg nofun] at hok
      cases hlocate : nonEmpty s.insertFind with
      | none =>
          simp only [hlocate] at hok
          split at hok
          all_goals
            obtain ⟨anchor, _, hok⟩ := bind_eq_ok_iff.mp hok
            exact Except.ok.inj hok ▸ hinsert
      | some locate =>
          simp only [hlocate] at hok
          split at hok
          all_goals
            obtain ⟨anchor, _, hok⟩ := bind_eq_ok_iff.mp hok
            exact Except.ok.inj hok ▸ hinsert.anchored anchor (ne_of_nonEmpty hlocate)

theorem withFile_speaks (hspeaks : step.Speaks) : (s.withFile step).Speaks := by
  unfold withFile
  split
  · rename_i file hfile
    exact hspeaks.inFile (ne_of_nonEmpty hfile)
  · exact hspeaks

theorem withCondition_speaks (hspeaks : step.Speaks) : (s.withCondition step).Speaks := by
  simp only [withCondition]
  split
  · exact hspeaks
  · rename_i hfind
    apply hspeaks.unlessFound _ (empty_not_mem_nonEmptyPatterns s.condFind) (nonEmpty_ne _)
    simpa using hfind

theorem toStep_speaks (hok : s.toStep = .ok step) : step.Speaks := by
  unfold toStep at hok
  obtain ⟨made, hmade, hok⟩ := bind_eq_ok_iff.mp hok
  have hspeaks : (s.withCondition (s.withFile made)).Speaks :=
    withCondition_speaks (withFile_speaks (operationStep_speaks hmade))
  split at hok
  · exact Except.ok.inj hok ▸ hspeaks
  · exact Except.ok.inj hok ▸ hspeaks.withContinuation _
  · obtain ⟨continuation, _, hok⟩ := bind_eq_ok_iff.mp hok
    exact Except.ok.inj hok ▸ hspeaks.withContinuation _

end StepShape

namespace RuleShape

variable {s : RuleShape} {title : String} {rule : Rule}

theorem ungated_wellFormed (hok : s.ungated title = .ok rule) :
    rule.WellFormed ∧ rule.title = title := by
  unfold ungated at hok
  split at hok
  · obtain ⟨step, hstep, hok⟩ := bind_eq_ok_iff.mp hok
    apply Rule.build_wellFormed hok
    intro other hother
    obtain rfl := List.mem_singleton.mp hother
    exact StepShape.toStep_speaks hstep
  · obtain ⟨_, _, hok⟩ := bind_eq_ok_iff.mp hok
    obtain ⟨steps, hsteps, hok⟩ := bind_eq_ok_iff.mp hok
    obtain ⟨made, hmade, hok⟩ := bind_eq_ok_iff.mp hok
    have hbuilt : made.WellFormed ∧ made.title = title := by
      apply Rule.build_wellFormed hmade
      intro step hstep
      obtain ⟨shape, _, hshape⟩ := exists_of_mem_mapM hsteps hstep
      exact StepShape.toStep_speaks hshape
    split at hok
    · rename_i file hfile
      obtain rfl := Except.ok.inj hok
      refine ⟨⟨hbuilt.1.steps, ?_, hbuilt.1.step⟩, hbuilt.2⟩
      exact fun hempty => ne_of_nonEmpty hfile (Option.some.inj hempty)
    · exact Except.ok.inj hok ▸ hbuilt

/-- A rule that settings make is well formed and has its title. -/
theorem toRule_wellFormed (hok : s.toRule title = .ok rule) :
    rule.WellFormed ∧ rule.title = title := by
  unfold toRule at hok
  obtain ⟨made, hmade, hok⟩ := bind_eq_ok_iff.mp hok
  have hsame : rule.steps = made.steps ∧ rule.defaultFile = made.defaultFile ∧
      rule.title = made.title := by
    dsimp only at hok
    cases hcursor : nonEmpty s.atCursor with
    | none =>
        simp only [hcursor] at hok
        split at hok
        · obtain ⟨_, _, hok⟩ := bind_eq_ok_iff.mp hok
          exact Except.ok.inj hok ▸ ⟨rfl, rfl, rfl⟩
        · exact Except.ok.inj hok ▸ ⟨rfl, rfl, rfl⟩
    | some pattern =>
        simp only [hcursor] at hok
        split at hok
        · obtain ⟨_, _, hok⟩ := bind_eq_ok_iff.mp hok
          obtain ⟨_, _, hok⟩ := bind_eq_ok_iff.mp hok
          exact Except.ok.inj hok ▸ ⟨rfl, rfl, rfl⟩
        · obtain ⟨_, _, hok⟩ := bind_eq_ok_iff.mp hok
          exact Except.ok.inj hok ▸ ⟨rfl, rfl, rfl⟩
  obtain ⟨hsteps, hfile, htitle⟩ := hsame
  obtain ⟨hmade, hnamed⟩ := ungated_wellFormed hmade
  exact ⟨⟨hsteps ▸ hmade.steps, hfile ▸ hmade.defaultFile, hsteps ▸ hmade.step⟩,
    htitle.trans hnamed⟩

end RuleShape

end Settings

end QuickFix
