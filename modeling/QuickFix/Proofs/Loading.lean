import Mathlib.Data.List.Forall2
import QuickFix.Proofs.WellFormed
import QuickFix.Settings.Load

/-!
Settings as they are read from a value. Only a value or a section that is no mapping makes them
fail. A rule is read from its own value alone, so another value in its place changes no other rule,
nor their order, nor the tables; and every rule that was read is well formed.
-/

namespace QuickFix

namespace Json

/-- The members of a mapping among members; none if it is missing or something else. -/
def membersAt (name : String) (root : List (String × Json)) : List (String × Json) :=
  match member? name root with
  | some (.object members) => members
  | _ => []

/-- A key that has a value has it in one place, and a new value goes there. -/
theorem exists_setMember_eq {key : String} {old : Json} {members : List (String × Json)}
    (hold : member? key members = some old) :
    ∃ front behind, members = front ++ (key, old) :: behind ∧
      ∀ value, setMember key value members = front ++ (key, value) :: behind := by
  induction members with
  | nil => cases hold
  | cons member rest ih =>
      obtain ⟨k, v⟩ := member
      by_cases hk : k = key
      · rw [member?, if_pos hk] at hold
        obtain rfl := Option.some.inj hold
        refine ⟨[], rest, by rw [hk, List.nil_append], fun value => ?_⟩
        rw [setMember, if_pos hk, hk, List.nil_append]
      · rw [member?, if_neg hk] at hold
        obtain ⟨front, behind, hmembers, hset⟩ := ih hold
        refine ⟨(k, v) :: front, behind, by rw [hmembers, List.cons_append], fun value => ?_⟩
        rw [setMember, if_neg hk, hset, List.cons_append]

end Json

namespace Settings

open Json

variable {root : List (String × Json)} {name selector title : String}

/-- Whether a section can be read: it is missing, null or a mapping. -/
def Readable (value : Option Json) : Prop :=
  value = none ∨ value = some .null ∨ ∃ members, value = some (.object members)

theorem section?_of_readable (hreadable : Readable (member? name root)) :
    Settings.section? root name = .ok (membersAt name root) := by
  unfold section? membersAt
  rcases hreadable with hnone | hnull | ⟨members, hmembers⟩
  · rw [hnone]
  · rw [hnull]
  · rw [hmembers]

theorem readable_of_section? {members : List (String × Json)}
    (hok : section? root name = .ok members) : Readable (member? name root) := by
  unfold section? at hok
  split at hok
  · exact .inl ‹_›
  · exact .inr (.inl ‹_›)
  · exact .inr (.inr ⟨_, ‹_›⟩)
  · cases hok

/-- The tables that the sections of a mapping make. -/
def tablesOf (root : List (String × Json)) : Tables where
  lookup := textsOf (membersAt "lookup" root)
  diagLookup := (membersAt "diagLookup" root).filterMap fun (group, value) =>
    (table? value).map (group, ·)

/-- The sets that the entries of a section make. -/
def setsOf (actions : List (String × Json)) : List ActionSet :=
  actions.filterMap fun (selector, value) => actionSet? selector value

theorem ofValue_object (hactions : Readable (member? "actions" root))
    (hlookup : Readable (member? "lookup" root)) (hgroups : Readable (member? "diagLookup" root)) :
    ofValue (.object root) = .ok ⟨tablesOf root, setsOf (membersAt "actions" root)⟩ := by
  have hactions := section?_of_readable hactions
  have hlookup := section?_of_readable hlookup
  have hgroups := section?_of_readable hgroups
  simp only [ofValue, hactions, hlookup, hgroups]
  rfl

theorem readable_of_ofValue {c : Configuration} (hok : ofValue (.object root) = .ok c) :
    Readable (member? "actions" root) ∧ Readable (member? "lookup" root) ∧
      Readable (member? "diagLookup" root) := by
  unfold ofValue at hok
  obtain ⟨_, hactions, hok⟩ := bind_eq_ok_iff.mp hok
  obtain ⟨_, hlookup, hok⟩ := bind_eq_ok_iff.mp hok
  obtain ⟨_, hgroups, _⟩ := bind_eq_ok_iff.mp hok
  exact ⟨readable_of_section? hactions, readable_of_section? hlookup, readable_of_section? hgroups⟩

theorem exists_ofValue_iff (value : Json) :
    (∃ c, ofValue value = .ok c) ↔ value = .null ∨ ∃ root, value = .object root ∧
      ∀ name ∈ ["actions", "lookup", "diagLookup"], Readable (member? name root) := by
  constructor
  · rintro ⟨c, hok⟩
    cases value with
    | null => exact .inl rfl
    | object root =>
        obtain ⟨hactions, hlookup, hgroups⟩ := readable_of_ofValue hok
        exact .inr ⟨root, rfl, by simp [hactions, hlookup, hgroups]⟩
    | _ => cases hok
  · rintro (rfl | ⟨root, rfl, hreadable⟩)
    · exact ⟨_, rfl⟩
    · simp only [List.forall_mem_cons] at hreadable
      obtain ⟨hactions, hlookup, hgroups, _⟩ := hreadable
      exact ⟨_, ofValue_object hactions hlookup hgroups⟩

/-- The set of a selector with some rules, if the selector names a language. -/
def setOf (selector : String) (rules : List Rule) : List ActionSet :=
  if Selector.languages selector = [] then [] else [⟨Selector.languages selector, rules⟩]

theorem toList_actionSet?_object (selector : String) (rules : List (String × Json)) :
    (actionSet? selector (.object rules)).toList =
      setOf selector (rules.filterMap fun (title, value) => ruleOf? title value) := by
  cases hlanguages : Selector.languages selector <;> simp [actionSet?, setOf, hlanguages]

theorem ruleOf?_eq_some_iff {value : Json} {rule : Rule} :
    ruleOf? title value = some rule ↔
      ∃ shape, rule? value = some shape ∧ shape.toRule title = .ok rule := by
  have htoOption : ∀ shape : RuleShape, (shape.toRule title).toOption = some rule ↔
      shape.toRule title = .ok rule := by
    intro shape
    cases shape.toRule title <;> simp [Except.toOption]
  simp only [ruleOf?, Option.bind_eq_bind, Option.bind_eq_some_iff, htoOption]

/-- The rules of the entries of a set: in the order of the entries those whose own value can be
read and makes a rule. -/
structure Serves (entry : String × List (String × Json)) (set : ActionSet) : Prop where
  languages : set.languages = Selector.languages entry.1
  rules : set.rules = entry.2.filterMap fun (title, value) => ruleOf? title value
  mem_rules_iff : ∀ rule, rule ∈ set.rules ↔ ∃ title value shape,
    (title, value) ∈ entry.2 ∧ rule? value = some shape ∧ shape.toRule title = .ok rule
  titles : (set.rules.map Rule.title).Sublist (entry.2.map Prod.fst)

theorem titles_sublist (entries : List (String × Json)) :
    ((entries.filterMap fun (title, value) => ruleOf? title value).map Rule.title).Sublist
      (entries.map Prod.fst) := by
  induction entries with
  | nil => exact .slnil
  | cons entry rest ih =>
      obtain ⟨title, value⟩ := entry
      cases hrule : ruleOf? title value with
      | none => simpa [hrule] using ih.cons title
      | some rule =>
          obtain ⟨shape, _, hshape⟩ := ruleOf?_eq_some_iff.mp hrule
          have htitle := (RuleShape.toRule_wellFormed hshape).2
          simpa [hrule, htitle] using ih.cons_cons title

/-- The entries of a section that are mappings and name a language. -/
def served? (action : String × Json) : Option (String × List (String × Json)) :=
  match action.2 with
  | .object rules => if Selector.languages action.1 = [] then none else some (action.1, rules)
  | _ => none

def setFrom (entry : String × List (String × Json)) : ActionSet where
  languages := Selector.languages entry.1
  rules := entry.2.filterMap fun (title, value) => ruleOf? title value

theorem setFrom_serves (entry : String × List (String × Json)) : Serves entry (setFrom entry) where
  languages := rfl
  rules := rfl
  mem_rules_iff rule := by
    rw [setFrom, List.mem_filterMap]
    constructor
    · rintro ⟨⟨title, value⟩, hmem, hrule⟩
      obtain ⟨shape, hread, hshape⟩ := ruleOf?_eq_some_iff.mp hrule
      exact ⟨title, value, shape, hmem, hread, hshape⟩
    · rintro ⟨title, value, shape, hmem, hread, hshape⟩
      exact ⟨(title, value), hmem, ruleOf?_eq_some_iff.mpr ⟨shape, hread, hshape⟩⟩
  titles := titles_sublist entry.2

theorem actionSet?_eq_map_served? (selector : String) (value : Json) :
    actionSet? selector value = (served? (selector, value)).map setFrom := by
  cases value with
  | object rules =>
      cases hlanguages : Selector.languages selector <;>
        simp [actionSet?, served?, setFrom, hlanguages]
  | _ => rfl

theorem forall₂_serves (actions : List (String × Json)) :
    List.Forall₂ Serves (actions.filterMap served?) (setsOf actions) := by
  have hsets : setsOf actions = (actions.filterMap served?).map setFrom := by
    simp only [setsOf, actionSet?_eq_map_served?, List.map_filterMap]
  rw [hsets, List.forall₂_map_right_iff, List.forall₂_same]
  exact fun entry _ => setFrom_serves entry

/-- The section of rules has no say in whether the others can be read, nor in the tables. -/
theorem ofValue_setMember_actions (root : List (String × Json)) :
    (∃ error, ∀ actions,
      ofValue (.object (setMember "actions" (.object actions) root)) = .error error) ∨
    ∀ actions, ofValue (.object (setMember "actions" (.object actions) root)) =
      .ok ⟨tablesOf root, setsOf actions⟩ := by
  have hactions : ∀ actions, section? (setMember "actions" (.object actions) root) "actions" =
      .ok actions := by
    intro actions
    rw [section?, member?_setMember_self]
  have hother : ∀ name, name ≠ "actions" → ∀ actions,
      Settings.section? (setMember "actions" (.object actions) root) name =
        Settings.section? root name := by
    intro name hname actions
    rw [section?, member?_setMember_of_ne hname, section?]
  have hlookup := hother "lookup" (by decide)
  have hgroups := hother "diagLookup" (by decide)
  cases hreadLookup : section? root "lookup" with
  | error error =>
      refine .inl ⟨error, fun actions => ?_⟩
      simp only [ofValue, hactions, hlookup, hreadLookup]
      rfl
  | ok lookup =>
      cases hreadGroups : section? root "diagLookup" with
      | error error =>
          refine .inl ⟨error, fun actions => ?_⟩
          simp only [ofValue, hactions, hlookup, hgroups, hreadLookup, hreadGroups]
          rfl
      | ok groups =>
          refine .inr fun actions => ?_
          have hlookupAt := section?_of_readable (readable_of_section? hreadLookup)
          have hgroupsAt := section?_of_readable (readable_of_section? hreadGroups)
          simp only [ofValue, hactions, hlookup, hgroups, hlookupAt, hgroupsAt]
          rfl

theorem setsOf_append (front behind : List (String × Json)) (selector : String) (value : Json) :
    setsOf (front ++ (selector, value) :: behind) =
      setsOf front ++ (actionSet? selector value).toList ++ setsOf behind := by
  cases hset : actionSet? selector value <;> simp [setsOf, hset]

theorem filterMap_ruleOf?_append (front behind : List (String × Json)) (title : String)
    (value : Json) :
    ((front ++ (title, value) :: behind).filterMap fun (title, value) => ruleOf? title value) =
      (front.filterMap fun (title, value) => ruleOf? title value) ++
        (ruleOf? title value).toList ++
          behind.filterMap fun (title, value) => ruleOf? title value := by
  cases hrule : ruleOf? title value <;> simp [hrule]

/-- The settings in which the rule of a title under a selector has another value. -/
def withRule (root actions rules : List (String × Json)) (selector title : String)
    (value : Json) : Json :=
  .object (setMember "actions" (.object (setMember selector (.object (setMember title value rules))
    actions)) root)

/-- What becomes of settings when the value of one rule is replaced: all values make them fail alike
or none does, and then they differ in that rule at most. -/
structure Isolates (root actions rules : List (String × Json)) (selector title : String)
    (old : Json) : Prop where
  same : withRule root actions rules selector title old = .object root
  replaced : (∃ error, ∀ value,
      ofValue (withRule root actions rules selector title value) = .error error) ∨
    ∃ tables before after front behind, ∀ value,
      ofValue (withRule root actions rules selector title value) = .ok ⟨tables,
        before ++ setOf selector (front ++ (ruleOf? title value).toList ++ behind) ++ after⟩

theorem isolates {actions rules : List (String × Json)} {old : Json}
    (hactions : member? "actions" root = some (.object actions))
    (hrules : member? selector actions = some (.object rules))
    (hold : member? title rules = some old) :
    Isolates root actions rules selector title old := by
  obtain ⟨rootFront, rootBehind, hroot, hsetRoot⟩ := exists_setMember_eq hactions
  obtain ⟨front, behind, hfront, hsetSelector⟩ := exists_setMember_eq hrules
  obtain ⟨first, last, hfirst, hsetTitle⟩ := exists_setMember_eq hold
  constructor
  · rw [withRule, hsetTitle, ← hfirst, hsetSelector, ← hfront, hsetRoot, ← hroot]
  · rcases ofValue_setMember_actions root with ⟨error, herror⟩ | hok
    · exact .inl ⟨error, fun value => herror _⟩
    · refine .inr ⟨tablesOf root, setsOf front, setsOf behind,
        first.filterMap fun (title, value) => ruleOf? title value,
        last.filterMap fun (title, value) => ruleOf? title value, fun value => ?_⟩
      rw [withRule, hok, hsetSelector, setsOf_append, toList_actionSet?_object, hsetTitle,
        filterMap_ruleOf?_append]

/-- What a value makes of settings. -/
structure Loads (value : Json) : Prop where
  ok_iff : (∃ c, ofValue value = .ok c) ↔ value = .null ∨ ∃ root, value = .object root ∧
    ∀ name ∈ ["actions", "lookup", "diagLookup"], Readable (member? name root)
  serves : ∀ root c, value = .object root → ofValue value = .ok c →
    List.Forall₂ Serves ((membersAt "actions" root).filterMap served?) c.sets
  isolates : ∀ root actions rules selector title old, value = .object root →
    member? "actions" root = some (.object actions) →
    member? selector actions = some (.object rules) → member? title rules = some old →
      Isolates root actions rules selector title old
  wellFormed : ∀ c, ofValue value = .ok c → ∀ set ∈ c.sets, ∀ rule ∈ set.rules,
    rule.WellFormed ∧ ∀ step ∈ rule.steps, ∀ ctx : StepContext, ctx.Reads step

theorem sets_of_ofValue {c : Configuration} (hok : ofValue (.object root) = .ok c) :
    c.sets = setsOf (membersAt "actions" root) := by
  obtain ⟨hactions, hlookup, hgroups⟩ := readable_of_ofValue hok
  rw [ofValue_object hactions hlookup hgroups] at hok
  rw [← Except.ok.inj hok]

theorem wellFormed_of_mem_setsOf {actions : List (String × Json)} {set : ActionSet}
    (hset : set ∈ setsOf actions) {rule : Rule} (hrule : rule ∈ set.rules) : rule.WellFormed := by
  obtain ⟨⟨selector, value⟩, _, hmade⟩ := List.mem_filterMap.mp hset
  have hset : actionSet? selector value = some set := hmade
  rw [actionSet?_eq_map_served?] at hset
  obtain ⟨entry, _, rfl⟩ := Option.map_eq_some_iff.mp hset
  obtain ⟨_, _, shape, _, _, hshape⟩ := ((setFrom_serves entry).mem_rules_iff rule).mp hrule
  exact (RuleShape.toRule_wellFormed hshape).1

/-- Whatever the value, what it makes of settings is well formed, and made of each rule alone. -/
theorem loads (value : Json) : Loads value := by
  refine ⟨exists_ofValue_iff value, ?_, ?_, ?_⟩
  · rintro root c rfl hok
    rw [sets_of_ofValue hok]
    exact forall₂_serves _
  · rintro root actions rules selector title old rfl hactions hrules hold
    exact Settings.isolates hactions hrules hold
  · intro c hok set hset rule hrule
    have hwell : rule.WellFormed := by
      cases value with
      | null =>
          obtain rfl := Except.ok.inj hok
          cases hset
      | object root => exact wellFormed_of_mem_setsOf (sets_of_ofValue hok ▸ hset) hrule
      | _ => cases hok
    exact ⟨hwell, fun step hstep ctx => ctx.reads_of_wellFormed (hwell.step step hstep)⟩

end Settings

end QuickFix
