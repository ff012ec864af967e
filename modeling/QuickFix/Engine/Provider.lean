import QuickFix.Action.Basic

/-!
Providers: the rules that serve one language, in sets. A provider that is turned off forgets its
sets; a new set turns it on.
-/

namespace QuickFix

/-- The rules that serve one language. -/
structure Provider where
  language : String
  isActive : Bool
  sets : List (List Rule)
  deriving DecidableEq, Repr

namespace Provider

/-- A provider without rules. -/
def ofLanguage (language : String) : Provider := ⟨language, true, []⟩

def setActive (p : Provider) (active : Bool) : Provider :=
  { p with isActive := active, sets := if active then p.sets else [] }

def addSet (p : Provider) (rules : List Rule) : Provider :=
  { p with isActive := true, sets := p.sets ++ [rules] }

def offer? (language : String) (query : Query) (tables : Tables) (rule : Rule) :
    Option CandidateAction :=
  (rule.test? query tables).map fun m =>
    ⟨m.title, language, query.document.path, rule, m.evidence, tables, none⟩

/-- The actions that a provider offers, in the order of its sets and rules. -/
def provide (p : Provider) (query : Query) (tables : Tables) : List CandidateAction :=
  if p.isActive then p.sets.flatten.filterMap (offer? p.language query tables) else []

end Provider

end QuickFix
