import QuickFix.Proofs.Gates
import QuickFix.Proofs.Loading

/-!
How often a rule of settings is offered. A set is added for every time its selector names the
language, so a rule that matches is offered that often, and never oftener, whatever was loaded
before. A selector that names no language twice has each of its rules offered once at most.
-/

namespace QuickFix

section Copies

variable {α β : Type} (n : Nat) (f : α → List β)

theorem flatten_replicate_flatMap_perm (l : List α) :
    (List.replicate n (l.flatMap f)).flatten.Perm
      (l.flatMap fun a => (List.replicate n (f a)).flatten) := by
  induction n with
  | zero => simp
  | succ n ih =>
      simp only [List.replicate_succ, List.flatten_cons]
      exact (ih.append_left _).trans (List.flatMap_append_perm l f _)

theorem flatten_replicate_flatMap_of_once {l : List α} (honce : n ≤ 1 ∨ ∀ a ∈ l, f a = []) :
    (List.replicate n (l.flatMap f)).flatten =
      l.flatMap fun a => (List.replicate n (f a)).flatten := by
  rcases honce with hn | hempty
  · obtain rfl | rfl : n = 0 ∨ n = 1 := by omega
    · simp
    · simp
  · rw [List.flatMap_eq_nil_iff.mpr hempty, Eq.comm]
    have hcopies : ∀ a ∈ l, (List.replicate n (f a)).flatten = [] := by
      intro a ha
      simp [hempty a ha]
    simp [List.flatMap_eq_nil_iff.mpr hcopies]

end Copies

namespace Settings

open Json

/-- A rule of settings: its title under a selector, with what is written there. -/
structure Entry where
  selector : String
  title : String
  value : Json

/-- The rules under a selector. -/
def entriesUnder (action : String × Json) : List Entry :=
  match action.2 with
  | .object rules => rules.map fun (title, value) => ⟨action.1, title, value⟩
  | _ => []

/-- What stands under the selectors of settings. -/
def actionsOf : Json → List (String × Json)
  | .object root => membersAt "actions" root
  | _ => []

/-- The rules of settings, in their order. -/
def entries (value : Json) : List Entry := (actionsOf value).flatMap entriesUnder

namespace Entry

/-- How often the selector of a rule names a language. -/
def times (e : Entry) (language : String) : Nat := (Selector.languages e.selector).count language

/-- The action that a rule offers, if it can be read and matches. -/
def offer? (e : Entry) (q : Query) (tables : Tables) : Option CandidateAction :=
  (ruleOf? e.title e.value).bind (Provider.offer? q.document.language q tables)

/-- What a rule has a share of in the actions that are offered. -/
def contributes (e : Entry) (q : Query) (tables : Tables) : List CandidateAction :=
  (List.replicate (e.times q.document.language) (e.offer? q tables).toList).flatten

variable {e : Entry} {q : Query} {tables : Tables}

theorem length_contributes : (e.contributes q tables).length =
    e.times q.document.language * (e.offer? q tables).toList.length :=
  length_flatten_replicate _ _

theorem length_contributes_le_one_iff : (e.contributes q tables).length ≤ 1 ↔
    e.times q.document.language ≤ 1 ∨ e.offer? q tables = none := by
  rw [length_contributes]
  cases e.offer? q tables <;> simp

/-- A language is named by the parts between commas that it is what is left of without blanks. -/
theorem times_eq_countP (e : Entry) {language : String} (hlanguage : language ≠ "") :
    e.times language =
      ((Selector.unbracket (Text.trim e.selector.toList)).splitOn ',').countP
        fun part => Text.trim part = language.toList := by
  have hne : language.toList ≠ [] := by simpa using hlanguage
  rw [times, Selector.languages, Selector.names, List.count, List.countP_map, List.countP_filter,
    List.countP_map]
  refine List.countP_congr fun part _ => ?_
  simp only [Function.comp_apply, Bool.and_eq_true, beq_iff_eq, decide_eq_true_eq,
    String.ofList_eq]
  constructor
  · exact And.left
  · intro hpart
    exact ⟨hpart, hpart ▸ hne⟩

end Entry

variable {value : Json} {c : Configuration} {q : Query} {tables : Tables}

theorem sets_eq_setsOf (hok : ofValue value = .ok c) : c.sets = setsOf (actionsOf value) := by
  cases value with
  | null =>
      obtain rfl := Except.ok.inj hok
      rfl
  | object root => exact sets_of_ofValue hok
  | _ => cases hok

/-- What the set of a selector offers, as often as the selector names the language. -/
def offersUnder (action : String × Json) (q : Query) (tables : Tables) : List CandidateAction :=
  (actionSet? action.1 action.2).toList.flatMap fun set =>
    (List.replicate (set.languages.count q.document.language) (set.offers q tables)).flatten

theorem offersUnder_eq (action : String × Json) : offersUnder action q tables =
    (List.replicate ((Selector.languages action.1).count q.document.language)
      ((entriesUnder action).flatMap fun e => (e.offer? q tables).toList)).flatten := by
  obtain ⟨selector, value⟩ := action
  cases value with
  | object rules =>
      have hoffers : (setFrom (selector, rules)).offers q tables =
          (entriesUnder (selector, .object rules)).flatMap fun e => (e.offer? q tables).toList := by
        rw [ActionSet.offers, setFrom, List.filterMap_filterMap, List.filterMap_eq_flatMap_toList,
          entriesUnder, List.flatMap_map]
        rfl
      rw [offersUnder, actionSet?_eq_map_served?, served?]
      cases hlanguages : Selector.languages selector with
      | nil => simp
      | cons first more =>
          simp only [reduceCtorEq, ↓reduceIte, Option.map_some, Option.toList_some,
            List.flatMap_singleton, hoffers]
          simp only [setFrom, hlanguages]
  | _ => simp [offersUnder, actionSet?, entriesUnder]

theorem selector_of_mem_entriesUnder {action : String × Json} {e : Entry}
    (he : e ∈ entriesUnder action) : e.selector = action.1 := by
  obtain ⟨selector, value⟩ := action
  cases value with
  | object rules =>
      obtain ⟨member, _, rfl⟩ := List.mem_map.mp he
      rfl
  | _ => cases he

theorem flatMap_contributes (action : String × Json) :
    ((entriesUnder action).flatMap fun e => e.contributes q tables) =
      (entriesUnder action).flatMap fun e =>
        (List.replicate ((Selector.languages action.1).count q.document.language)
          (e.offer? q tables).toList).flatten := by
  refine List.flatMap_congr fun e he => ?_
  rw [Entry.contributes, Entry.times, selector_of_mem_entriesUnder he]

theorem query_eq_flatMap (hok : ofValue value = .ok c) (past : List Configuration) (q : Query) :
    (Engine.afterAll (past ++ [c])).query q =
      (actionsOf value).flatMap fun action => offersUnder action q c.tables := by
  have hnew : (Engine.afterAll (past ++ [c])).query q = (({} : Engine).reload c).1.query q := by
    rw [Engine.query_afterAll, ← Engine.query_afterAll []]
    rfl
  rw [hnew, c.query_reload, copies, sets_eq_setsOf hok, setsOf, List.filterMap_eq_flatMap_toList,
    List.flatMap_assoc]
  rfl

theorem query_perm (hok : ofValue value = .ok c) (past : List Configuration) (q : Query) :
    ((Engine.afterAll (past ++ [c])).query q).Perm
      ((entries value).flatMap fun e => e.contributes q c.tables) := by
  rw [query_eq_flatMap hok, entries, List.flatMap_assoc]
  refine List.Perm.flatMap_left _ fun action _ => ?_
  rw [flatMap_contributes, offersUnder_eq]
  exact flatten_replicate_flatMap_perm _ _ _

/-- What the rules of settings have a share of in the actions that are offered once they are loaded.
-/
structure Shares (value : Json) (c : Configuration) (past : List Configuration) (q : Query) :
    Prop where
  perm : ((Engine.afterAll (past ++ [c])).query q).Perm
    ((entries value).flatMap fun e => e.contributes q c.tables)
  /-- A rule has more than one share only if its selector names the language more than once. -/
  once_iff : ∀ e ∈ entries value, (e.contributes q c.tables).length ≤ 1 ↔
    e.times q.document.language ≤ 1 ∨ e.offer? q c.tables = none
  ordered : (∀ e ∈ entries value, (e.contributes q c.tables).length ≤ 1) →
    (Engine.afterAll (past ++ [c])).query q =
      (entries value).flatMap fun e => e.contributes q c.tables
  times_eq : ∀ e ∈ entries value, ∀ language, language ≠ "" → e.times language =
    ((Selector.unbracket (Text.trim e.selector.toList)).splitOn ',').countP
      fun part => Text.trim part = language.toList

/-- Whatever was loaded before, every rule of settings that is offered is offered as often as its
selector names the language. -/
theorem shares_of_ofValue (hok : ofValue value = .ok c) (past : List Configuration) (q : Query) :
    Shares value c past q where
  perm := query_perm hok past q
  once_iff e _ := e.length_contributes_le_one_iff
  ordered := by
    intro honce
    rw [query_eq_flatMap hok, entries, List.flatMap_assoc]
    refine List.flatMap_congr fun action haction => ?_
    rw [flatMap_contributes, offersUnder_eq]
    apply flatten_replicate_flatMap_of_once
    refine or_iff_not_imp_left.mpr fun htwice e he => ?_
    have hentry : e ∈ entries value := List.mem_flatMap.mpr ⟨action, haction, he⟩
    rcases e.length_contributes_le_one_iff.mp (honce e hentry) with hnamed | hnone
    · rw [Entry.times, selector_of_mem_entriesUnder he] at hnamed
      exact absurd hnamed htwice
    · rw [hnone, Option.toList_none]
  times_eq e _ language hlanguage := e.times_eq_countP hlanguage

end Settings

namespace RepetitionWitness

open Settings

def query : Query := ⟨⟨⟨"/a"⟩, "rust", 0, []⟩, ⟨⟨0, 0⟩, ⟨0, 0⟩⟩, []⟩

def ruleValue : Json := .object [("text", .string "x")]

/-- Settings with the same rule under each of some selectors. -/
def under (selectors : List String) : Json :=
  .object [("actions", .object (selectors.map fun selector =>
    (selector, .object [("t", ruleValue)])))]

def rule : Rule := ⟨"t", [], none, [.insert "x"], none, false⟩

def configuration (languages : List (List String)) : Configuration :=
  ⟨{}, languages.map fun names => ⟨names, [rule]⟩⟩

def offer : CandidateAction := ⟨"t", "rust", ⟨"/a"⟩, rule, ⟨none, none⟩, {}, none⟩

theorem ruleOf?_ruleValue : ruleOf? "t" ruleValue = some rule := by cbv

theorem test?_rule : rule.test? query {} = some ⟨"t", ⟨none, none⟩⟩ := by cbv

theorem offer?_entry (selector : String) :
    (Entry.mk selector "t" ruleValue).offer? query {} = some offer := by
  rw [Entry.offer?, ruleOf?_ruleValue, Option.bind_some, Provider.offer?, test?_rule]
  rfl

theorem contributes_entry (selector : String) :
    (Entry.mk selector "t" ruleValue).contributes query {} =
      List.replicate ((Selector.languages selector).count "rust") offer := by
  rw [Entry.contributes, offer?_entry, Option.toList_some, List.flatten_replicate_singleton]
  rfl

theorem entries_under (selectors : List String) : entries (under selectors) =
    selectors.map fun selector => ⟨selector, "t", ruleValue⟩ := by
  simp only [entries, actionsOf, under, Json.membersAt, Json.member?, ↓reduceIte,
    List.flatMap_map]
  exact List.flatMap_singleton' selectors ▸ List.flatMap_pure_eq_map _ _

theorem count_twice : (Selector.languages "rust, rust").count "rust" = 2 := by cbv

theorem ofValue_twice : ofValue (under ["rust, rust"]) = .ok (configuration [["rust", "rust"]]) := by
  cbv

/-- A rule under a selector that names its language twice is offered twice. -/
theorem offered_twice : ∃ c, ofValue (under ["rust, rust"]) = .ok c ∧
    (entries (under ["rust, rust"])).length = 1 ∧
    (Engine.afterAll ([] ++ [c])).query query = [offer, offer] := by
  have hperm := query_perm ofValue_twice [] query
  have hoffers : (Entry.mk "rust, rust" "t" ruleValue).contributes query {} =
      List.replicate 2 offer := by
    rw [contributes_entry, count_twice]
  rw [entries_under, List.map_singleton, List.flatMap_singleton] at hperm
  exact ⟨_, ofValue_twice, rfl, List.perm_replicate.mp (hoffers ▸ hperm)⟩

theorem ofValue_apart : ofValue (under ["rust", "[go, rust]"]) =
    .ok (configuration [["rust"], ["go", "rust"]]) := by
  cbv

theorem count_apart : ∀ selector ∈ ["rust", "[go, rust]"],
    (Selector.languages selector).count "rust" = 1 := by
  intro selector hselector
  rcases List.mem_pair.mp hselector with rfl | rfl
  · cbv
  · cbv

/-- One title under two selectors makes two rules, and each of them is offered once, whatever was
loaded before. -/
theorem shares_apart :
    ofValue (under ["rust", "[go, rust]"]) = .ok (configuration [["rust"], ["go", "rust"]]) ∧
      (∀ e ∈ entries (under ["rust", "[go, rust]"]), (e.contributes query {}).length = 1) ∧
      ((Engine.afterAll ([configuration [["rust", "rust"]]] ++
        [configuration [["rust"], ["go", "rust"]]])).query query).length = 2 := by
  have hshares := shares_of_ofValue ofValue_apart [configuration [["rust", "rust"]]] query
  have honce : ∀ e ∈ entries (under ["rust", "[go, rust]"]),
      (e.contributes query {}).length = 1 := by
    intro e he
    rw [entries_under, List.mem_map] at he
    obtain ⟨selector, hselector, rfl⟩ := he
    rw [contributes_entry, count_apart selector hselector]
    rfl
  refine ⟨ofValue_apart, honce, ?_⟩
  have hlength := hshares.perm.length_eq
  rw [List.length_flatMap] at hlength
  exact hlength.trans (congrArg List.sum (List.map_congr_left honce))

end RepetitionWitness

end QuickFix
