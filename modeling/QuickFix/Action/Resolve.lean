import QuickFix.Action.Source

/-!
Resolving an action. Its steps are taken in order against the open documents as they are: none sees
the edit of another. A step is skipped where its condition holds or its insertion is already there;
the others make one edit or, where nothing is found to replace, none. What stands behind a step
decides whether the next one is taken. An error discards all edits.
-/

namespace QuickFix

/-- The edits of an action, and whether it must be applied again for more. -/
structure ResolvedEdits where
  edit : WorkspaceEdit
  needsReapply : Bool

/-- What the steps of one action have in common. -/
structure StepContext where
  renderer : Renderer
  active : Document
  source : DocumentSource
  /-- The file of steps that name none, rendered. -/
  defaultFile : Option String

/-- What came of a step before its continuation is looked at. -/
inductive StepOutcome where
  /-- The condition holds, or the text is already there. -/
  | skipped
  /-- There is no text to put anywhere. -/
  | halted
  /-- The step was taken, with its edit if there was one to make. -/
  | taken (edit : Option TextEdit)
  deriving DecidableEq, Repr

namespace StepContext

def target (ctx : StepContext) (step : EditStep) : Except ResolveError Document :=
  match (step.target.map ctx.renderer.render).or ctx.defaultFile with
  | none => .ok ctx.active
  | some reference =>
    match ctx.source.reference ctx.active reference with
    | .error e => .error e
    | .ok path =>
      match ctx.source.find? path with
      | some d => .ok d
      | none => .error (.unresolvedDocument path)

/-- The expressions of templates, if all of them are well formed once rendered. -/
def patterns? (ctx : StepContext) (templates : List String) : Option (List Regex) :=
  templates.mapM fun t => Regex.compile? (ctx.renderer.render t)

/-- The expression of a stop pattern, if it is absent or well formed once rendered. -/
def stop? (ctx : StepContext) (template : Option String) : Option (Option Regex) :=
  match template with
  | none => some none
  | some t => (Regex.compile? (ctx.renderer.render t)).map some

/-- Looks for templates of patterns in a document; patterns that are not well formed are not found.
-/
def locate? (ctx : StepContext) (d : Document) (find : List String) (stop : Option String) :
    Option Located := do
  let patterns ← ctx.patterns? find
  let stop ← ctx.stop? stop
  d.locate? patterns stop

/-- Whether the condition of a step holds in a document. A step without one has none that holds. -/
def holds (ctx : StepContext) (d : Document) (condition : Option Condition) : Bool :=
  match condition with
  | none => false
  | some c => (ctx.locate? d c.find c.stop).isSome

/-- The line in front of which an anchor places a text; the first line if no line matches. -/
def anchorLine (anchor : Anchor) (matching : List Nat) : Nat :=
  match anchor with
  | .start => 0
  | .beforeFirst => matching.head?.getD 0
  | .afterLast => (matching.getLast?.map (· + 1)).getD 0
  | .beforeLast => matching.getLast?.getD 0

/-- The line in front of which an insertion goes. -/
def insertionLine (ctx : StepContext) (d : Document) (anchor : Anchor) (locate : Option String) :
    Nat :=
  match locate.bind fun t => Regex.compile? (ctx.renderer.render t) with
  | none => 0
  | some re => anchorLine anchor (d.linesMatching re)

/-- The edit of an insertion. Behind the last line the text begins a line of its own. -/
def insertion (d : Document) (line : Nat) (text : String) : TextEdit :=
  .insert ⟨line, 0⟩ (if line = d.lineCount then "\n" ++ text else text)

/-- What the operation of a step does with its rendered text. -/
def operate (ctx : StepContext) (d : Document) (operation : Operation) (text : String) :
    StepOutcome :=
  match operation with
  | .insert anchor locate =>
    if d.holdsLiteral text then .skipped
    else .taken (some (insertion d (ctx.insertionLine d anchor locate) text))
  | .replace locate stop =>
    .taken ((ctx.locate? d locate stop).map fun m =>
      .replace m.range (m.captured.substitute text))

/-- What comes of a step in its document. -/
def take (ctx : StepContext) (d : Document) (step : EditStep) : StepOutcome :=
  if ctx.holds d step.condition then .skipped
  else
    let text := ctx.renderer.render step.text
    if text = "" then .halted else ctx.operate d step.operation text

/-- Whether the continuation of a step that was taken stops, and if so whether the action must be
applied again. -/
def stopsBehind (ctx : StepContext) (d : Document) (step : EditStep) (rest : List EditStep) :
    Option Bool :=
  match step.effectiveContinuation with
  | none => none
  | some .always => some true
  | some .never => some false
  | some .onNextConditionFailure =>
    match rest with
    | [] => none
    | next :: _ => if ctx.holds d next.condition then none else some true

def queue (edit : WorkspaceEdit) (d : Document) : Option TextEdit → WorkspaceEdit
  | none => edit
  | some e => edit.push d.path e

/-- Takes the steps that are left. -/
def resolveFrom (ctx : StepContext) (edit : WorkspaceEdit) :
    List EditStep → Except ResolveError ResolvedEdits
  | [] => .ok ⟨edit, false⟩
  | step :: rest =>
    match ctx.target step with
    | .error e => .error e
    | .ok d =>
      match ctx.take d step with
      | .skipped => resolveFrom ctx edit rest
      | .halted => .ok ⟨edit, false⟩
      | .taken made =>
        let edit := queue edit d made
        match ctx.stopsBehind d step rest with
        | some needsReapply => .ok ⟨edit, needsReapply⟩
        | none => resolveFrom ctx edit rest

end StepContext

namespace CandidateAction

/-- What the steps of an action have in common when a document is active. -/
def context (action : CandidateAction) (source : DocumentSource) (active : Document) :
    StepContext :=
  let renderer : Renderer := ⟨action.evidence, action.tables, some (.ofPath active.path)⟩
  ⟨renderer, active, source, action.rule.defaultFile.map renderer.render⟩

def resolveEdits (action : CandidateAction) (source : DocumentSource) :
    Except ResolveError ResolvedEdits :=
  match source.active with
  | none => .error .noActiveDocument
  | some active => (action.context source active).resolveFrom .empty action.rule.steps

end CandidateAction

end QuickFix
