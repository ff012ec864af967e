import QuickFix.Engine.Basic
import QuickFix.Proofs.Continuation
import QuickFix.Proofs.Insertion
import QuickFix.Proofs.Match

/-!
Two ways not to insert a text twice. A rule that is a single insertion is not offered where its text
is there already, and no step inserts a text that is there already. Both render the same text and
look for it alike, so what a query leaves out is what would come to nothing.
-/

namespace QuickFix

namespace StepContext

variable (ctx : StepContext) {d : Document} {step : EditStep}

theorem resolveFrom_of_holds (htarget : ctx.target step = .ok d)
    (hholds : ctx.holds d step.condition = true) :
    ctx.resolveFrom .empty [step] = .ok ⟨.empty, false⟩ := by
  simp only [resolveFrom, htarget, ctx.take_of_holds hholds]

/-- An insertion whose text is there makes no edit, whatever its condition. -/
theorem resolveFrom_of_present (htarget : ctx.target step = .ok d)
    (hinsert : ∃ anchor locate, step.operation = .insert anchor locate)
    (hpresent : d.holdsLiteral (ctx.renderer.render step.text) = true) :
    ctx.resolveFrom .empty [step] = .ok ⟨.empty, false⟩ := by
  cases hneeded : ctx.holds d step.condition with
  | true => exact ctx.resolveFrom_of_holds htarget hneeded
  | false =>
      by_cases htext : ctx.renderer.render step.text = ""
      · simp only [resolveFrom, htarget, ctx.take_of_no_text hneeded htext]
      · have hrepeats : ctx.Repeats d step := ⟨hneeded, htext, hinsert, hpresent⟩
        have htake := (ctx.take_eq_skipped_iff d step).mpr (.inr hrepeats)
        simp only [resolveFrom, htarget, htake]

/-- An insertion that is needed and whose text is not there makes an edit. -/
theorem resolveFrom_of_absent (htarget : ctx.target step = .ok d)
    (hinsert : ∃ anchor locate, step.operation = .insert anchor locate)
    (hneeded : ctx.holds d step.condition = false)
    (habsent : d.holdsLiteral (ctx.renderer.render step.text) = false) :
    ∃ needsReapply line,
      ctx.resolveFrom .empty [step] =
        .ok ⟨.push .empty d.path (insertion d line (ctx.renderer.render step.text)),
          needsReapply⟩ := by
  obtain ⟨anchor, locate, hinsert⟩ := hinsert
  have htext : ctx.renderer.render step.text ≠ "" := by
    intro hempty
    rw [hempty, d.holdsLiteral_empty] at habsent
    cases habsent
  have htake := ctx.take_of_needed hneeded htext
  simp only [hinsert, operate, habsent, Bool.false_eq_true, ↓reduceIte] at htake
  simp only [resolveFrom, htarget, htake, queue]
  cases ctx.stopsBehind d step [] with
  | none => exact ⟨false, _, rfl⟩
  | some needsReapply => exact ⟨needsReapply, _, rfl⟩

end StepContext

/-- The query once some edits were made in the document, for the same diagnostics. -/
def Query.behind (q : Query) (edits : List TextEdit) (range : Range) : Query :=
  ⟨(q.document.applyEdits edits).1, range, q.diagnostics⟩

namespace Rule

/-- Whether a rule is a single insertion into the queried document. -/
structure InsertsHere (rule : Rule) (step : EditStep) : Prop where
  steps : rule.steps = [step]
  defaultFile : rule.defaultFile = none
  target : step.target = none
  inserts : ∃ anchor locate, step.operation = .insert anchor locate

/-- The rule with its steps written as a list. -/
def listed (rule : Rule) : Rule := { rule with explicit := true }

/-- The action of a rule whose gates a query passes. -/
def candidate (rule : Rule) (language : String) (q : Query) (tables : Tables)
    (evidence : Evidence) : CandidateAction :=
  ⟨(renderer q tables evidence).render rule.title, language, q.document.path, rule, evidence,
    tables, none⟩

/-- Whether the text of a step stands in the queried document. -/
def repeats (step : EditStep) (q : Query) (tables : Tables) (evidence : Evidence) : Bool :=
  q.document.holdsLiteral ((renderer q tables evidence).render step.text)

variable {rule : Rule} {step : EditStep} {q : Query} {evidence : Evidence}

theorem InsertsHere.listed (hrule : rule.InsertsHere step) : rule.listed.InsertsHere step :=
  ⟨hrule.steps, hrule.defaultFile, hrule.target, hrule.inserts⟩

theorem InsertsHere.presentText? (hrule : rule.InsertsHere step)
    (himplicit : rule.explicit = false) : rule.presentText? = some step.text := by
  obtain ⟨anchor, locate, hinsert⟩ := hrule.inserts
  simp [Rule.presentText?, hrule.steps, himplicit, hrule.defaultFile, hrule.target, hinsert]

theorem presentText?_listed (rule : Rule) : rule.listed.presentText? = none := rfl

/-- A rule of one insertion is offered if its gates pass and its text is not there yet. -/
theorem InsertsHere.offer? (hrule : rule.InsertsHere step) (himplicit : rule.explicit = false)
    (hgates : rule.evidence? q = some evidence) (language : String) (tables : Tables) :
    Provider.offer? language q tables rule =
      if repeats step q tables evidence then none
      else some (rule.candidate language q tables evidence) := by
  simp only [Provider.offer?, test?, hgates, hrule.presentText? himplicit, repeats, candidate]
  exact apply_ite _ _ _ _

/-- Written as a list it is offered as soon as its gates pass. -/
theorem offer?_listed (hgates : rule.evidence? q = some evidence) (language : String)
    (tables : Tables) :
    Provider.offer? language q tables rule.listed =
      some (rule.listed.candidate language q tables evidence) := by
  have hgates' : rule.listed.evidence? q = some evidence := hgates
  simp [Provider.offer?, test?, hgates', presentText?_listed, candidate]

/-- The gates of a rule that does not ask for the cursor see nothing of the document. -/
theorem evidence?_behind (hcursor : rule.cursorPattern = none) (edits : List TextEdit)
    (range : Range) : rule.evidence? (q.behind edits range) = rule.evidence? q := by
  simp only [evidence?, diagnosticGate?, hcursor, Query.behind]

end Rule

/-- An engine that serves the language of an action finds its edits. -/
theorem Engine.resolve_of_isActive {e : Engine} {action : CandidateAction}
    {source : DocumentSource} (hserved : e.isActive action.language = true) {r : ResolvedEdits}
    (hok : action.resolveEdits source = .ok r) :
    e.resolve action source =
      (.resolved r.needsReapply, { action with edit := some r.edit }) := by
  simp only [resolve, hserved, hok, if_true]

namespace Rule

variable {rule : Rule} {step : EditStep} {q : Query} {evidence : Evidence} {tables : Tables}
  {source : DocumentSource} {language : String} {e : Engine}

theorem InsertsHere.target_candidate (hrule : rule.InsertsHere step) :
    ((rule.candidate language q tables evidence).context source q.document).target step =
      .ok q.document := by
  simp [StepContext.target, CandidateAction.context, candidate, hrule.defaultFile, hrule.target]

theorem InsertsHere.resolve_candidate (hrule : rule.InsertsHere step)
    (hserved : e.isActive language = true) (hactive : source.active = some q.document)
    {r : ResolvedEdits}
    (hok : ((rule.candidate language q tables evidence).context source q.document).resolveFrom
      .empty [step] = .ok r) :
    e.resolve (rule.candidate language q tables evidence) source =
      (.resolved r.needsReapply,
        { rule.candidate language q tables evidence with edit := some r.edit }) := by
  apply Engine.resolve_of_isActive hserved
  rw [CandidateAction.resolveEdits, hactive]
  exact (congrArg _ hrule.steps).trans hok

/-- The one edit that the action of a rule of one insertion can make. -/
theorem InsertsHere.edit_of_resolve (hrule : rule.InsertsHere step)
    (hserved : e.isActive language = true) (hactive : source.active = some q.document)
    (habsent : repeats step q tables evidence = false) {resolution : Resolution}
    {edit : WorkspaceEdit}
    (hresolve : e.resolve (rule.candidate language q tables evidence) source =
      (resolution, { rule.candidate language q tables evidence with edit := some edit }))
    (hcount : 0 < edit.count) :
    ∃ line, edit = .push .empty q.document.path (StepContext.insertion q.document line
      ((renderer q tables evidence).render step.text)) := by
  have hedit : ∀ r : ResolvedEdits,
      ((rule.candidate language q tables evidence).context source q.document).resolveFrom
        .empty [step] = .ok r → edit = r.edit := by
    intro r hok
    have heq := (hrule.resolve_candidate hserved hactive hok).symm.trans hresolve
    exact (Option.some.inj (congrArg (fun p => CandidateAction.edit p.2) heq)).symm
  cases hneeded : ((rule.candidate language q tables evidence).context source q.document).holds
      q.document step.condition with
  | true =>
      rw [hedit _ (StepContext.resolveFrom_of_holds _ hrule.target_candidate hneeded)] at hcount
      simp [WorkspaceEdit.count_empty] at hcount
  | false =>
      obtain ⟨_, line, hok⟩ := StepContext.resolveFrom_of_absent _ hrule.target_candidate
        hrule.inserts hneeded habsent
      exact ⟨line, hedit _ hok⟩

/-- Once the text of a step was inserted, it stands in the document. -/
theorem repeats_behind (step : EditStep) (q : Query) (tables : Tables) (evidence : Evidence)
    (line : Nat) (range : Range) :
    repeats step (q.behind [StepContext.insertion q.document line
      ((renderer q tables evidence).render step.text)] range) tables evidence = true := by
  have hbefore : ∀ edit ∈ [StepContext.insertion q.document line
      ((renderer q tables evidence).render step.text)], edit.BeforeLine := by
    intro edit hedit
    rw [List.mem_singleton.mp hedit]
    exact StepContext.insertion_beforeLine _ _ _
  exact Document.holdsLiteral_of_part ((StepContext.infix_newText_insertion _ _ _).trans
    (Document.newText_infix_applyEdits hbefore List.mem_cons_self))

/-- What a query tells about a rule that is a single insertion agrees with what its action comes to.
-/
structure Agrees (rule : Rule) (step : EditStep) (language : String) (q : Query) (tables : Tables)
    (e : Engine) (source : DocumentSource) : Prop where
  /-- If the rule is not offered, then written as a list it is, but there is nothing to do. -/
  withheld : Provider.offer? language q tables rule = none →
    ∃ action, Provider.offer? language q tables rule.listed = some action ∧
      e.resolve action source = (.resolved false, { action with edit := some .empty })
  /-- If it is offered, there is one insertion to make, unless its step has a condition. -/
  offered : ∀ action, Provider.offer? language q tables rule = some action →
    step.condition = none →
      ∃ needsReapply position text edit,
        e.resolve action source = (.resolved needsReapply, { action with edit := some edit }) ∧
          edit.files = [⟨q.document.path, [.insert position text]⟩]
  /-- Once an edit of it was made, it is not offered again. -/
  settled : rule.cursorPattern = none →
    ∀ action, Provider.offer? language q tables rule = some action →
      ∀ needsReapply edit,
        e.resolve action source = (.resolved needsReapply, { action with edit := some edit }) →
          0 < edit.count → ∀ range,
            Provider.offer? language (q.behind (edit.editsFor q.document.path) range) tables rule =
              none

/-- A query that leaves out a rule of one insertion, and the step that does not insert, decide
alike. -/
theorem InsertsHere.agrees (hrule : rule.InsertsHere step) (himplicit : rule.explicit = false)
    (hgates : rule.evidence? q = some evidence) (tables : Tables)
    (hserved : e.isActive language = true) (hactive : source.active = some q.document) :
    rule.Agrees step language q tables e source := by
  have hoffer := hrule.offer? himplicit hgates language tables
  have hoffered : ∀ action, Provider.offer? language q tables rule = some action →
      repeats step q tables evidence = false ∧
        action = rule.candidate language q tables evidence := by
    intro action haction
    rw [hoffer] at haction
    split at haction
    · cases haction
    · rename_i habsent
      exact ⟨by simpa using habsent, (Option.some.inj haction).symm⟩
  constructor
  · intro hwithheld
    have hpresent : repeats step q tables evidence = true := by
      by_contra habsent
      rw [hoffer, if_neg habsent] at hwithheld
      cases hwithheld
    refine ⟨_, offer?_listed hgates language tables, ?_⟩
    exact hrule.listed.resolve_candidate hserved hactive
      (StepContext.resolveFrom_of_present _ hrule.listed.target_candidate hrule.inserts hpresent)
  · intro action haction hcondition
    obtain ⟨habsent, rfl⟩ := hoffered action haction
    obtain ⟨needsReapply, line, hok⟩ := StepContext.resolveFrom_of_absent
      ((rule.candidate language q tables evidence).context source q.document)
      hrule.target_candidate hrule.inserts (hcondition ▸ rfl) habsent
    exact ⟨needsReapply, _, _, _, hrule.resolve_candidate hserved hactive hok, rfl⟩
  · intro hcursor action haction needsReapply edit hresolve hcount range
    obtain ⟨habsent, rfl⟩ := hoffered action haction
    obtain ⟨line, rfl⟩ := hrule.edit_of_resolve hserved hactive habsent hresolve hcount
    rw [WorkspaceEdit.editsFor_push, if_pos rfl]
    have hrepeated := repeats_behind step q tables evidence line range
    exact (hrule.offer? himplicit ((evidence?_behind hcursor _ range).trans hgates) language
      tables).trans (if_pos hrepeated)

end Rule

namespace SuppressionWitness

def document : Document := ⟨⟨"/a"⟩, "rust", 0, ['x']⟩

def diagnostic : Diagnostic := ⟨⟨⟨0, 0⟩, ⟨0, 1⟩⟩, none, none, none, "b"⟩

def query : Query := ⟨document, diagnostic.range, [diagnostic]⟩

def evidence : Evidence := ⟨some ⟨.ofSpans (.letter 'b') ['b'] [some ⟨0, 1⟩], diagnostic⟩, none⟩

def step : EditStep := EditStep.insert "a\n"

/-- A line for what a diagnostic says. -/
def rule : Rule := ⟨"t", [.letter 'b'], none, [step], none, false⟩

def source : DocumentSource :=
  ⟨some document, [document], DocumentSource.scan [document], fun _ => none⟩

def serving : Engine := ⟨(∅ : Std.TreeMap String Provider).insert "rust" (.ofLanguage "rust"), {}⟩

theorem insertsHere : rule.InsertsHere step := ⟨rfl, rfl, rfl, _, _, rfl⟩

theorem evidence?_rule : rule.evidence? query = some evidence := by cbv

theorem isActive_serving : serving.isActive "rust" = true := by
  simp [serving, Engine.isActive, Provider.ofLanguage]

theorem repeats_step : Rule.repeats step query {} evidence = false := by cbv

/-- A line that is offered and made, and not offered again. -/
theorem agrees_rule :
    rule.InsertsHere step ∧ rule.explicit = false ∧ rule.evidence? query = some evidence ∧
      serving.isActive "rust" = true ∧ source.active = some query.document ∧
      ∃ action needsReapply edit, Provider.offer? "rust" query {} rule = some action ∧
        serving.resolve action source =
          (.resolved needsReapply, { action with edit := some edit }) ∧
        ∀ range, Provider.offer? "rust" (query.behind (edit.editsFor document.path) range) {} rule =
          none := by
  have hagrees : rule.Agrees step "rust" query {} serving source :=
    insertsHere.agrees rfl evidence?_rule {} isActive_serving rfl
  have hoffer := insertsHere.offer? rfl evidence?_rule "rust" {}
  rw [repeats_step] at hoffer
  obtain ⟨needsReapply, _, _, edit, hresolve, hfiles⟩ := hagrees.offered _ hoffer rfl
  have hcount : 0 < edit.count := by
    rw [WorkspaceEdit.count, hfiles]
    exact Nat.one_pos
  exact ⟨insertsHere, rfl, evidence?_rule, isActive_serving, rfl, _, needsReapply, edit, hoffer,
    hresolve, hagrees.settled rfl _ hoffer _ _ hresolve hcount⟩

end SuppressionWitness

end QuickFix
