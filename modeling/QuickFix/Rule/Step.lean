import QuickFix.Regex.Basic
import QuickFix.Template.Basic

/-!
Edit steps, the units of work of a rule: where an edit goes, what it puts there, when it is not
needed, and whether the steps behind it follow at once.
-/

namespace QuickFix

/-- Why a rule is malformed. -/
inductive RuleError where
  /-- A list of steps was empty. -/
  | emptyEdits
  /-- A step has no text. -/
  | missingText (step : Nat)
  /-- A replacement does not say what to replace. -/
  | missingLocatePattern (step : Nat)
  | unknownAction (name : String)
  | unknownAnchor (name : String)
  | unknownContinuation (name : String)
  /-- A pattern is no regular expression. -/
  | invalidPattern (pattern : String)
  deriving DecidableEq, Repr

namespace RuleError

/-- How a cause is told. What the compiler of patterns says about a pattern is its own, and is given
as a detail. -/
def message (e : RuleError) (detail : String := "") : String :=
  match e with
  | emptyEdits => "rule has no edit steps"
  | missingText step => "edit step " ++ toString step ++ ": \x60text\x60 is required"
  | missingLocatePattern step =>
    "edit step " ++ toString step ++ ": replace requires \x60replaceFind\x60"
  | unknownAction name => "unknown action '" ++ name ++ "'"
  | unknownAnchor name => "unknown insert position '" ++ name ++ "'"
  | unknownContinuation name => "unknown needsContinue value '" ++ name ++ "'"
  | invalidPattern pattern => "invalid pattern '" ++ pattern ++ "': " ++ detail

end RuleError

/-- Where an insertion goes. -/
inductive Anchor where
  /-- At the start of the document. -/
  | start
  /-- Before the first line that matches. -/
  | beforeFirst
  /-- After the last line that matches. -/
  | afterLast
  /-- Before the last line that matches. -/
  | beforeLast
  deriving DecidableEq, Repr

def Anchor.ofName (name : String) : Except RuleError Anchor :=
  match name with
  | "start" => .ok .start
  | "beforeFirst" => .ok .beforeFirst
  | "afterLast" => .ok .afterLast
  | "beforeLast" => .ok .beforeLast
  | _ => .error (.unknownAnchor name)

/-- What happens when a step has made an edit. -/
inductive Continuation where
  /-- Stop, and ask to apply the action again. -/
  | always
  /-- Stop. -/
  | never
  /-- Stop and ask to apply the action again if the condition of the next step does not hold. -/
  | onNextConditionFailure
  deriving DecidableEq, Repr

namespace Continuation

def ofFlag (flag : Bool) : Continuation := if flag then always else never

/-- The continuation of a name; flags have none. -/
def ofName (name : String) : Except RuleError Continuation :=
  match name with
  | "nextCondFail" => .ok onNextConditionFailure
  | _ => .error (.unknownContinuation name)

end Continuation

/-- A step is not needed where its patterns are found one after the other, before the stop pattern.
-/
structure Condition where
  find : List String
  stop : Option String
  deriving DecidableEq, Repr

/-- What a step does with its text. -/
inductive Operation where
  /-- Puts the text in front of a line. -/
  | insert (anchor : Anchor) (locate : Option String)
  /-- Puts the text in place of the last of some matches found one after the other. -/
  | replace (locate : List String) (stop : Option String)
  deriving DecidableEq, Repr

/-- One unit of work of a rule. All its texts are templates. -/
structure EditStep where
  /-- The file to edit; without one, it is the active document. -/
  target : Option String
  operation : Operation
  condition : Option Condition
  text : String
  continuation : Option Continuation
  deriving DecidableEq, Repr

namespace EditStep

/-- An insertion at the start of the document. -/
def insert (text : String) : EditStep := ⟨none, .insert .start none, none, text, none⟩

/-- A replacement of the last of some matches found one after the other. -/
def replaceChain (locate : List String) (text : String) : EditStep :=
  ⟨none, .replace locate none, none, text, none⟩

def replace (locate text : String) : EditStep := replaceChain [locate] text

/-- Places an insertion by the lines that match. A replacement stays as it is. -/
def anchored (step : EditStep) (anchor : Anchor) (locate : String) : EditStep :=
  match step.operation with
  | .insert _ _ => { step with operation := .insert anchor (some locate) }
  | .replace _ _ => step

/-- Gives a replacement a stop pattern. An insertion stays as it is. -/
def withReplaceStop (step : EditStep) (stop : String) : EditStep :=
  match step.operation with
  | .replace locate _ => { step with operation := .replace locate (some stop) }
  | .insert _ _ => step

def inFile (step : EditStep) (file : String) : EditStep := { step with target := some file }

/-- Makes the step unneeded where patterns are found. -/
def unlessFound (step : EditStep) (find : List String) (stop : Option String) : EditStep :=
  { step with condition := some ⟨find, stop⟩ }

/-- Says what happens behind the step. -/
def withContinuation (step : EditStep) (continuation : Continuation) : EditStep :=
  { step with continuation := some continuation }

/-- What happens behind the step: a step with a condition asks to apply the action again, unless it
says otherwise. -/
def effectiveContinuation (step : EditStep) : Option Continuation :=
  match step.continuation with
  | some c => some c
  | none => step.condition.map fun _ => .always

/-- An insertion without a pattern goes to the start. -/
def normalize (step : EditStep) : EditStep :=
  match step.operation with
  | .insert _ none => { step with operation := .insert .start none }
  | _ => step

def operationPatterns (step : EditStep) : List String :=
  match step.operation with
  | .insert _ locate => locate.toList
  | .replace locate stop => locate ++ stop.toList

def conditionPatterns (step : EditStep) : List String :=
  match step.condition with
  | some c => c.find ++ c.stop.toList
  | none => []

end EditStep

def compilePattern (pattern : String) : Except RuleError Regex :=
  match Regex.compile? pattern with
  | some re => .ok re
  | none => .error (.invalidPattern pattern)

/-- Reads patterns, up to the first that is malformed. -/
def compilePatterns (patterns : List String) : Except RuleError (List Regex) :=
  patterns.mapM compilePattern

namespace EditStep

/-- Checks that patterns without placeholders are well formed. Others are only read once they are
rendered. -/
def checkPatterns : List String → Except RuleError Unit
  | [] => .ok ()
  | p :: rest =>
    if Template.hasPlaceholders p then checkPatterns rest
    else
      match compilePattern p with
      | .ok _ => checkPatterns rest
      | .error e => .error e

/-- Whether a replacement does not say what to replace. -/
def lacksPattern (step : EditStep) : Bool :=
  match step.operation with
  | .insert _ _ => false
  | .replace locate _ => locate.isEmpty || locate.any (· = "")

/-- Checks the step at an index of a rule. -/
def validate (index : Nat) (step : EditStep) : Except RuleError Unit :=
  if step.text = "" then .error (.missingText index)
  else if step.lacksPattern then .error (.missingLocatePattern index)
  else checkPatterns (step.operationPatterns ++ step.conditionPatterns)

end EditStep

end QuickFix
