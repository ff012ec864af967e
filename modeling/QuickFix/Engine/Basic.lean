import QuickFix.Action.Resolve
import QuickFix.Engine.Provider

/-!
The engine: one provider for each language that settings ever named. New settings replace all rules
and tables, but a language stays registered. Actions that were offered before keep their rule and
tables.
-/

namespace QuickFix

/-- Rules and the languages they serve. -/
structure ActionSet where
  languages : List String
  rules : List Rule
  deriving DecidableEq, Repr

/-- Settings as they were read. -/
structure Configuration where
  tables : Tables := {}
  sets : List ActionSet := []
  deriving DecidableEq, Repr

instance : Inhabited Configuration := ⟨{}⟩

/-- What new settings changed: the languages named for the first time, and those no longer served.
-/
structure ReloadSummary where
  registered : List String
  deactivated : List String
  deriving DecidableEq, Repr

/-- All that is known of the settings. -/
structure Engine where
  providers : Std.TreeMap String Provider := ∅
  tables : Tables := {}

instance : Inhabited Engine := ⟨{}⟩

namespace Engine

/-- Providers while settings are loaded, with the languages that are new. -/
structure Loading where
  providers : Std.TreeMap String Provider
  registered : List String

/-- Adds a set of rules for one language. -/
def Loading.addSet (l : Loading) (rules : List Rule) (language : String) : Loading :=
  match l.providers[language]? with
  | some p => { l with providers := l.providers.insert language (p.addSet rules) }
  | none =>
    { providers := l.providers.insert language ((Provider.ofLanguage language).addSet rules)
      registered := l.registered ++ [language] }

def Loading.addSets (l : Loading) (set : ActionSet) : Loading :=
  set.languages.foldl (fun l language => l.addSet set.rules language) l

/-- Turns all providers off. -/
def silenced (e : Engine) : Std.TreeMap String Provider :=
  e.providers.map fun _ p => p.setActive false

def reload (e : Engine) (c : Configuration) : Engine × ReloadSummary :=
  let loaded := c.sets.foldl Loading.addSets ⟨e.silenced, []⟩
  let silent := loaded.providers.values.filter fun p => !p.isActive
  (⟨loaded.providers, c.tables⟩, ⟨loaded.registered, silent.map Provider.language⟩)

/-- The languages that settings ever named, in order. -/
def languages (e : Engine) : List String := e.providers.keys

def isActive (e : Engine) (language : String) : Bool :=
  e.providers[language]?.any Provider.isActive

/-- The actions for a range of a document. -/
def query (e : Engine) (q : Query) : List CandidateAction :=
  match e.providers[q.document.language]? with
  | some p => p.provide q e.tables
  | none => []

/-- Finds the edits of an action and attaches them. An action that has none keeps none. -/
def resolve (e : Engine) (action : CandidateAction) (source : DocumentSource) :
    Resolution × CandidateAction :=
  if e.isActive action.language then
    match action.resolveEdits source with
    | .ok r => (.resolved r.needsReapply, { action with edit := some r.edit })
    | .error err => (.unresolved err, { action with edit := none })
  else (.unresolved (.providerInactive action.language), { action with edit := none })

end Engine

end QuickFix
