import QuickFix.Json.Basic
import QuickFix.Rule.Basic

/-!
The shape of rules in settings. A member that is missing or null says nothing; one of a wrong kind
spoils the rule. A step may also be a list of its members in order, of which the last may be
missing.
-/

namespace QuickFix.Settings

/-- A flag, or the name of a mode. -/
inductive Mode where
  | flag (value : Bool)
  | name (value : String)
  deriving DecidableEq, Repr

/-- The members of a step. -/
structure StepShape where
  action : Option String
  file : Option String
  text : Option String
  position : Option String
  insertFind : Option String
  replaceFind : Option (List String)
  replaceFindStop : Option String
  condFind : Option (List String)
  condFindStop : Option String
  needsContinue : Option Mode
  deriving DecidableEq, Repr

/-- The members of a rule. Its own step members are those of its single step, or of all its steps if
it has a list of them. -/
structure RuleShape where
  diagnostics : Option (List String)
  atCursor : Option String
  edits : Option (List StepShape)
  step : StepShape
  deriving DecidableEq, Repr

/-- Reads a member that may say nothing. The result is missing if the member is of a wrong kind. -/
def optional {α : Type} (read : Json → Option α) (value : Option Json) : Option (Option α) :=
  match value with
  | none => some none
  | some .null => some none
  | some v => (read v).map some

/-- Reads one pattern or a list of patterns. -/
def patterns? : Json → Option (List String)
  | .string s => some [s]
  | .array items => items.mapM Json.text?
  | _ => none

/-- Reads a flag or the name of a mode. -/
def mode? : Json → Option Mode
  | .bool b => some (.flag b)
  | .string s => some (.name s)
  | _ => none

/-- The names of the members of a step, in their order. -/
def stepKeys : List String :=
  ["action", "file", "text", "where", "insertFind", "replaceFind", "replaceFindStop", "condFind",
    "condFindStop", "needsContinue"]

/-- Reads a step from its members. -/
def stepOfMembers (member : String → Option Json) : Option StepShape := do
  return {
    action := ← optional Json.text? (member "action")
    file := ← optional Json.text? (member "file")
    text := ← optional Json.text? (member "text")
    position := ← optional Json.text? (member "where")
    insertFind := ← optional Json.text? (member "insertFind")
    replaceFind := ← optional patterns? (member "replaceFind")
    replaceFindStop := ← optional Json.text? (member "replaceFindStop")
    condFind := ← optional patterns? (member "condFind")
    condFindStop := ← optional Json.text? (member "condFindStop")
    needsContinue := ← optional mode? (member "needsContinue") }

def step? : Json → Option StepShape
  | .object members => stepOfMembers fun key => Json.member? key members
  | .array items =>
    if stepKeys.length < items.length then none
    else stepOfMembers fun key => (stepKeys.zip items).lookup key
  | _ => none

def steps? : Json → Option (List StepShape)
  | .array items => items.mapM step?
  | _ => none

def rule? : Json → Option RuleShape
  | .object members => do
    let member key := Json.member? key members
    return {
      diagnostics := ← optional patterns? (member "diagnostics")
      atCursor := ← optional Json.text? (member "atCursor")
      edits := ← optional steps? (member "edits")
      step := ← stepOfMembers member }
  | _ => none

/-- The patterns that say something. -/
def nonEmptyPatterns (patterns : Option (List String)) : List String :=
  (patterns.getD []).filter (· ≠ "")

/-- A text that says something. -/
def nonEmpty (text : Option String) : Option String := text.filter (· ≠ "")

/-- The action of a step: it inserts unless it says otherwise. -/
def replaces (action : Option String) : Except RuleError Bool :=
  match action.getD "insert" with
  | "insert" => .ok false
  | "replace" => .ok true
  | other => .error (.unknownAction other)

namespace StepShape

/-- The operation of a step with its text. -/
def operationStep (s : StepShape) : Except RuleError EditStep := do
  let text := s.text.getD ""
  if ← replaces s.action then
    let step := EditStep.replaceChain (nonEmptyPatterns s.replaceFind) text
    match nonEmpty s.replaceFindStop with
    | some stop => return step.withReplaceStop stop
    | none => return step
  else
    let anchor ←
      match s.position with
      | some position => Anchor.ofName position
      | none => pure .start
    match nonEmpty s.insertFind with
    | some locate => return (EditStep.insert text).anchored anchor locate
    | none => return .insert text

def withFile (s : StepShape) (step : EditStep) : EditStep :=
  match nonEmpty s.file with
  | some file => step.inFile file
  | none => step

def withCondition (s : StepShape) (step : EditStep) : EditStep :=
  let find := nonEmptyPatterns s.condFind
  if find.isEmpty then step else step.unlessFound find (nonEmpty s.condFindStop)

def toStep (s : StepShape) : Except RuleError EditStep := do
  let step := s.withCondition (s.withFile (← s.operationStep))
  match s.needsContinue with
  | none => return step
  | some (.flag b) => return step.withContinuation (.ofFlag b)
  | some (.name n) => return step.withContinuation (← Continuation.ofName n)

end StepShape

namespace RuleShape

/-- The rule without its gates. -/
def ungated (s : RuleShape) (title : String) : Except RuleError Rule :=
  match s.edits with
  | none => do Rule.single title (← s.step.toStep)
  | some edits => do
    let _ ← replaces s.step.action
    let rule ← Rule.ofSteps title (← edits.mapM StepShape.toStep)
    match nonEmpty s.step.file with
    | some file => return rule.withDefaultFile file
    | none => return rule

def toRule (s : RuleShape) (title : String) : Except RuleError Rule := do
  let mut rule ← s.ungated title
  let diagnostics := nonEmptyPatterns s.diagnostics
  if !diagnostics.isEmpty then
    rule := rule.gatedOnDiagnostics (← compilePatterns diagnostics)
  if let some pattern := nonEmpty s.atCursor then
    rule := rule.gatedOnCursor (← compilePattern pattern)
  return rule

end RuleShape

end QuickFix.Settings
