import QuickFix.Rule.Step

/-!
Rules: a title, gates that a query must pass, and edit steps. A rule matches a query if its gates do
and, where it is a single insertion into the queried document, its text is not there yet.
-/

namespace QuickFix

/-- A quick fix. All its texts are templates. -/
structure Rule where
  title : String
  /-- Some message of a diagnostic must match one of these, if there are any. -/
  diagnosticPatterns : List Regex
  /-- A match of this must hold the cursor, if there is one. -/
  cursorPattern : Option Regex
  steps : List EditStep
  /-- The file of the steps that name none. -/
  defaultFile : Option String
  /-- Whether the steps were written as a list. -/
  explicit : Bool
  deriving DecidableEq, Repr

/-- What an editor asks: the document, the range whose start is the cursor, and the diagnostics
there. -/
structure Query where
  document : Document
  range : Range
  diagnostics : List Diagnostic
  deriving DecidableEq, Repr

/-- A rule that matched: its rendered title and the evidence. -/
structure RuleMatch where
  title : String
  evidence : Evidence
  deriving DecidableEq, Repr

namespace Rule

/-- Checks steps from an index on, up to the first malformed one. -/
def validateFrom (index : Nat) : List EditStep → Except RuleError Unit
  | [] => .ok ()
  | step :: rest =>
    match step.validate index with
    | .ok _ => validateFrom (index + 1) rest
    | .error e => .error e

/-- Builds a rule without gates from steps. -/
def build (title : String) (steps : List EditStep) (explicit : Bool) : Except RuleError Rule :=
  if steps.isEmpty then .error .emptyEdits
  else
    let steps := steps.map EditStep.normalize
    match validateFrom 0 steps with
    | .ok _ => .ok ⟨title, [], none, steps, none, explicit⟩
    | .error e => .error e

def single (title : String) (step : EditStep) : Except RuleError Rule := build title [step] false

def ofSteps (title : String) (steps : List EditStep) : Except RuleError Rule :=
  build title steps true

/-- Asks for a diagnostic. -/
def gatedOnDiagnostics (rule : Rule) (patterns : List Regex) : Rule :=
  { rule with diagnosticPatterns := patterns }

/-- Asks for a match around the cursor. -/
def gatedOnCursor (rule : Rule) (pattern : Regex) : Rule := { rule with cursorPattern := some pattern }

/-- Gives the steps that name no file one. -/
def withDefaultFile (rule : Rule) (file : String) : Rule := { rule with defaultFile := some file }

def isDiagnosticGated (rule : Rule) : Bool := !rule.diagnosticPatterns.isEmpty

def isCursorGated (rule : Rule) : Bool := rule.cursorPattern.isSome

/-- The text whose presence makes the rule pointless: that of a single insertion into the queried
document. -/
def presentText? (rule : Rule) : Option String :=
  if rule.explicit || rule.defaultFile.isSome then none
  else
    match rule.steps with
    | [step] =>
      match step.operation, step.target with
      | .insert _ _, none => some step.text
      | _, _ => none
    | _ => none

/-- The match of the first pattern that matches the message of a diagnostic. -/
def matchDiagnostic? (patterns : List Regex) (d : Diagnostic) : Option DiagnosticMatch :=
  patterns.findSome? fun re =>
    (re.matchFrom? d.message.toList 0).map fun spans => ⟨.ofSpans re d.message.toList spans, d⟩

/-- The first diagnostic that a pattern matches, with the first such pattern. -/
def diagnosticGate? (rule : Rule) (query : Query) : Option DiagnosticMatch :=
  query.diagnostics.findSome? (matchDiagnostic? rule.diagnosticPatterns)

/-- The last match that holds the cursor. -/
def cursorGate? (pattern : Regex) (query : Query) : Option Enclosing :=
  Locate.enclosing? query.document.chars pattern (query.document.offsetAt query.range.start)

/-- The evidence that a query has for the gates of a rule; nothing if a gate is closed. -/
def evidence? (rule : Rule) (query : Query) : Option Evidence := do
  let diagnostic ←
    if rule.isDiagnosticGated then (rule.diagnosticGate? query).map some else some none
  let cursor ←
    match rule.cursorPattern with
    | some pattern => (cursorGate? pattern query).map some
    | none => some none
  return ⟨diagnostic, cursor⟩

/-- What the templates of a rule are rendered with when it is matched. -/
def renderer (query : Query) (tables : Tables) (evidence : Evidence) : Renderer :=
  ⟨evidence, tables, some (.ofPath query.document.path)⟩

def test? (rule : Rule) (query : Query) (tables : Tables) : Option RuleMatch :=
  match rule.evidence? query with
  | none => none
  | some evidence =>
    let r := renderer query tables evidence
    let present :=
      match rule.presentText? with
      | some text => query.document.holdsLiteral (r.render text)
      | none => false
    if present then none else some ⟨r.render rule.title, evidence⟩

end Rule

end QuickFix
