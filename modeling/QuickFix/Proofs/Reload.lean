import Mathlib
import QuickFix.Engine.Basic
import QuickFix.Proofs.OrderedMap

/-!
New settings in a row. Providers are kept, emptied and filled again, so what is served after the
last settings is what they say, as if no others had been read; only the list of languages remembers
them.
-/

namespace QuickFix

namespace Configuration

/-- The languages that settings name, in order. -/
def named (c : Configuration) : List String := c.sets.flatMap ActionSet.languages

/-- The languages that settings name, each with the rules it is named for. -/
def mentions (c : Configuration) : List (String × List Rule) :=
  c.sets.flatMap fun set => set.languages.map fun language => (language, set.rules)

/-- The rules of a language, in sets. -/
def setsFor (c : Configuration) (language : String) : List (List Rule) :=
  (c.mentions.filter fun m => m.1 = language).map Prod.snd

theorem map_fst_mentions (c : Configuration) : c.mentions.map Prod.fst = c.named := by
  simp only [mentions, named, List.map_flatMap, List.map_map]
  congr 1
  funext set
  exact List.map_id _

end Configuration

namespace Engine

namespace Loading

/-- Adds the rules of a language that is mentioned. -/
def mention (l : Loading) (m : String × List Rule) : Loading := l.addSet m.2 m.1

theorem foldl_addSets (l : Loading) (c : Configuration) :
    c.sets.foldl addSets l = c.mentions.foldl mention l := by
  simp only [Configuration.mentions, List.foldl_flatMap, List.foldl_map]
  rfl

/-- The provider of a language before more rules are added. -/
def provider (l : Loading) (language : String) : Provider :=
  l.providers[language]?.getD (Provider.ofLanguage language)

theorem getElem?_mention (l : Loading) (m : String × List Rule) (k : String) :
    (l.mention m).providers[k]? =
      if m.1 = k then some ((l.provider k).addSet m.2) else l.providers[k]? := by
  have hinsert : ∀ p : Provider, (l.providers.insert m.1 p)[k]? =
      if m.1 = k then some p else l.providers[k]? := by
    intro p
    simp only [Std.TreeMap.getElem?_insert, Std.LawfulEqCmp.compare_eq_iff_eq]
  by_cases hk : m.1 = k
  · subst hk
    cases hold : l.providers[m.1]? with
    | none => simp only [mention, addSet, provider, hold, hinsert, Option.getD_none]
    | some p => simp only [mention, addSet, provider, hold, hinsert, Option.getD_some]
  · cases hold : l.providers[m.1]? with
    | none => simp only [mention, addSet, hold, hinsert, if_neg hk]
    | some p => simp only [mention, addSet, hold, hinsert, if_neg hk]

/-- A language that is mentioned is served by all the rules it is mentioned with, behind those it
had; the others are left alone. -/
theorem getElem?_foldl_mention (mentions : List (String × List Rule)) (l : Loading) (k : String) :
    (mentions.foldl mention l).providers[k]? =
      if k ∈ mentions.map Prod.fst then
        some ⟨(l.provider k).language, true,
          (l.provider k).sets ++ (mentions.filter fun m => m.1 = k).map Prod.snd⟩
      else l.providers[k]? := by
  induction mentions generalizing l with
  | nil => simp
  | cons m rest ih =>
      rw [List.foldl_cons, ih, getElem?_mention]
      by_cases hk : m.1 = k
      · have hprovider : (l.mention m).provider k = (l.provider k).addSet m.2 := by
          rw [provider, getElem?_mention, if_pos hk, Option.getD_some]
        by_cases hrest : k ∈ rest.map Prod.fst
        · simp [hk, hprovider, hrest, Provider.addSet]
        · have hnone : (rest.filter fun m => m.1 = k) = [] := by
            simp only [List.filter_eq_nil_iff, decide_eq_true_eq]
            intro m' hm' heq
            exact hrest (List.mem_map.mpr ⟨m', hm', heq⟩)
          simp [hk, hrest, hnone, Provider.addSet]
      · have hprovider : (l.mention m).provider k = l.provider k := by
          rw [provider, getElem?_mention, if_neg hk, provider]
        have hmem : k ∈ (m :: rest).map Prod.fst ↔ k ∈ rest.map Prod.fst := by
          rw [List.map_cons, List.mem_cons, or_iff_right (Ne.symm hk)]
        have hfilter : ((m :: rest).filter fun m => m.1 = k) = rest.filter fun m => m.1 = k :=
          List.filter_cons_of_neg (by simpa using hk)
        rw [if_neg hk, hprovider, hfilter]
        simp only [hmem]

/-- The languages that loading registers are those mentioned that were not there, in the order of
their first mention. -/
theorem registered_foldl_mention (mentions : List (String × List Rule)) (l : Loading) :
    (mentions.foldl mention l).registered =
      l.registered ++
        ((mentions.map Prod.fst).filter fun k => !l.providers.contains k).eraseDups := by
  induction mentions generalizing l with
  | nil => simp
  | cons m rest ih =>
      rw [List.foldl_cons, ih, List.map_cons]
      have hcontains : ∀ k, (l.mention m).providers.contains k =
          (m.1 == k || l.providers.contains k) := by
        intro k
        simp only [Std.TreeMap.contains_eq_isSome_getElem?, getElem?_mention]
        by_cases hk : m.1 = k <;> simp [hk]
      cases hold : l.providers[m.1]? with
      | some p =>
          have hthere : l.providers.contains m.1 = true := by
            simp [Std.TreeMap.contains_eq_isSome_getElem?, hold]
          have hregistered : (l.mention m).registered = l.registered := by
            simp only [mention, addSet, hold]
          have hsame : ∀ k, (l.mention m).providers.contains k = l.providers.contains k := by
            intro k
            rw [hcontains]
            by_cases hk : m.1 = k
            · rw [← hk, hthere, Bool.or_true]
            · simp [hk]
          rw [List.filter_cons_of_neg (by simp [hthere]), hregistered]
          simp only [hsame]
      | none =>
          have hnew : l.providers.contains m.1 = false := by
            simp [Std.TreeMap.contains_eq_isSome_getElem?, hold]
          have hregistered : (l.mention m).registered = l.registered ++ [m.1] := by
            simp only [mention, addSet, hold]
          have hfilter : ((rest.map Prod.fst).filter fun k => !(l.mention m).providers.contains k) =
              ((rest.map Prod.fst).filter fun k => !l.providers.contains k).filter
                fun k => !k == m.1 := by
            rw [List.filter_filter]
            congr 1
            funext k
            rw [hcontains, Bool.not_or, BEq.comm]
          rw [List.filter_cons_of_pos (by simp [hnew]), List.eraseDups_cons, hregistered, hfilter,
            List.append_assoc, List.singleton_append]

end Loading

/-- Whether every provider serves the language it is kept for. -/
def Labelled (e : Engine) : Prop :=
  ∀ (k : String) (p : Provider), e.providers[k]? = some p → p.language = k

theorem getElem?_silenced (e : Engine) (k : String) :
    e.silenced[k]? = (e.providers[k]?).map fun p => p.setActive false := by
  rw [silenced, Std.TreeMap.getElem?_map]

/-- What is loaded once all mentions are added to the providers that were turned off. -/
def loaded (e : Engine) (c : Configuration) : Loading :=
  c.mentions.foldl Loading.mention ⟨e.silenced, []⟩

theorem reload_providers (e : Engine) (c : Configuration) :
    (e.reload c).1.providers = (e.loaded c).providers := by
  simp only [reload, Loading.foldl_addSets, loaded]

theorem reload_registered (e : Engine) (c : Configuration) :
    (e.reload c).2.registered = (e.loaded c).registered := by
  simp only [reload, Loading.foldl_addSets, loaded]

/-- New settings serve the languages they name with the rules they give, whatever was served before.
-/
theorem getElem?_reload {e : Engine} (hlabelled : e.Labelled) (c : Configuration) (k : String) :
    (e.reload c).1.providers[k]? =
      if k ∈ c.named then some ⟨k, true, c.setsFor k⟩
      else (e.providers[k]?).map fun _ => ⟨k, false, []⟩ := by
  have hprovider : (⟨e.silenced, []⟩ : Loading).provider k = ⟨k, true, []⟩ ∨
      (⟨e.silenced, []⟩ : Loading).provider k = ⟨k, false, []⟩ := by
    simp only [Loading.provider, getElem?_silenced]
    cases hold : e.providers[k]? with
    | none => exact .inl rfl
    | some p => exact .inr (by simp [Provider.setActive, hlabelled k p hold])
  rw [reload_providers, loaded, Loading.getElem?_foldl_mention, c.map_fst_mentions]
  by_cases hk : k ∈ c.named
  · rw [if_pos hk, if_pos hk, Configuration.setsFor]
    rcases hprovider with hnew | hempty
    · simp [hnew]
    · simp [hempty]
  · rw [if_neg hk, if_neg hk, getElem?_silenced]
    cases hold : e.providers[k]? with
    | none => rfl
    | some p => simp [Provider.setActive, hlabelled k p hold]

theorem reload_labelled {e : Engine} (hlabelled : e.Labelled) (c : Configuration) :
    (e.reload c).1.Labelled := by
  intro k p hp
  rw [getElem?_reload hlabelled] at hp
  by_cases hk : k ∈ c.named
  · rw [if_pos hk, Option.some.injEq] at hp
    rw [← hp]
  · rw [if_neg hk, Option.map_eq_some_iff] at hp
    obtain ⟨_, _, hp⟩ := hp
    rw [← hp]

/-- A new engine after settings in a row. -/
def afterAll (cs : List Configuration) : Engine := cs.foldl (fun e c => (e.reload c).1) {}

theorem afterAll_append_singleton (past : List Configuration) (c : Configuration) :
    afterAll (past ++ [c]) = ((afterAll past).reload c).1 := by
  rw [afterAll, List.foldl_append]
  rfl

theorem afterAll_labelled (cs : List Configuration) : (afterAll cs).Labelled := by
  induction cs using List.reverseRecOn with
  | nil =>
      intro k p hp
      simp [afterAll] at hp
  | append_singleton past c ih =>
      rw [afterAll_append_singleton]
      exact reload_labelled ih c

/-- The languages that are kept are those that some settings named. -/
theorem mem_afterAll_iff (cs : List Configuration) (k : String) :
    k ∈ (afterAll cs).providers ↔ k ∈ cs.flatMap Configuration.named := by
  induction cs using List.reverseRecOn with
  | nil => simp [afterAll]
  | append_singleton past c ih =>
      rw [Std.TreeMap.mem_iff_isSome_getElem?] at ih ⊢
      rw [afterAll_append_singleton, getElem?_reload (afterAll_labelled past),
        List.flatMap_append, List.mem_append, ← ih]
      by_cases hk : k ∈ c.named
      · simp [hk]
      · simp [hk]

/-- What serves a language depends on the last settings alone; that it is kept, on all of them. -/
theorem getElem?_afterAll (past : List Configuration) (c : Configuration) (k : String) :
    (afterAll (past ++ [c])).providers[k]? =
      if k ∈ c.named then some ⟨k, true, c.setsFor k⟩
      else if k ∈ past.flatMap Configuration.named then some ⟨k, false, []⟩
      else none := by
  rw [afterAll_append_singleton, getElem?_reload (afterAll_labelled past)]
  by_cases hk : k ∈ c.named
  · rw [if_pos hk, if_pos hk]
  · rw [if_neg hk, if_neg hk]
    by_cases hpast : k ∈ past.flatMap Configuration.named
    · have hmem := (mem_afterAll_iff past k).mpr hpast
      obtain ⟨p, hp⟩ := Option.isSome_iff_exists.mp (Std.TreeMap.mem_iff_isSome_getElem?.mp hmem)
      rw [if_pos hpast, hp, Option.map_some]
    · have hnone := Std.TreeMap.getElem?_eq_none (mt (mem_afterAll_iff past k).mp hpast)
      rw [if_neg hpast, hnone, Option.map_none]

theorem isActive_afterAll_iff (past : List Configuration) (c : Configuration) (k : String) :
    (afterAll (past ++ [c])).isActive k = true ↔ k ∈ c.named := by
  rw [isActive, getElem?_afterAll]
  by_cases hk : k ∈ c.named
  · simp [hk]
  · by_cases hpast : k ∈ past.flatMap Configuration.named
    · simp [hk, hpast]
    · simp [hk, hpast]

theorem tables_afterAll (past : List Configuration) (c : Configuration) :
    (afterAll (past ++ [c])).tables = c.tables := by
  rw [afterAll_append_singleton]
  rfl

/-- What is offered is what the rules of the last settings offer. -/
theorem query_afterAll (past : List Configuration) (c : Configuration) (q : Query) :
    (afterAll (past ++ [c])).query q =
      if q.document.language ∈ c.named then
        (Provider.mk q.document.language true (c.setsFor q.document.language)).provide q c.tables
      else [] := by
  rw [query, getElem?_afterAll, tables_afterAll]
  by_cases hk : q.document.language ∈ c.named
  · rw [if_pos hk, if_pos hk]
  · rw [if_neg hk, if_neg hk]
    by_cases hpast : q.document.language ∈ past.flatMap Configuration.named
    · rw [if_pos hpast]
      rfl
    · rw [if_neg hpast]

theorem languages_pairwise_lt (e : Engine) : e.languages.Pairwise (· < ·) :=
  (Std.TreeMap.ordered_keys (t := e.providers)).imp compareOfLessAndEq_eq_lt.mp

theorem mem_languages_afterAll_iff (cs : List Configuration) (k : String) :
    k ∈ (afterAll cs).languages ↔ ∃ c ∈ cs, k ∈ c.named := by
  rw [languages, Std.TreeMap.mem_keys, mem_afterAll_iff, List.mem_flatMap]

theorem registered_reload (past : List Configuration) (c : Configuration) :
    ((afterAll past).reload c).2.registered =
      (c.named.filter (· ∉ past.flatMap Configuration.named)).eraseDups := by
  have hcontains : ∀ k, (!(afterAll past).silenced.contains k) =
      decide (k ∉ past.flatMap Configuration.named) := by
    intro k
    simp only [← mem_afterAll_iff, silenced, Std.TreeMap.contains_map, decide_not,
      Std.TreeMap.mem_iff_contains, Bool.decide_eq_true]
  rw [reload_registered, loaded, Loading.registered_foldl_mention, c.map_fst_mentions,
    List.nil_append]
  simp only [hcontains]

theorem deactivated_reload (past : List Configuration) (c : Configuration) :
    ((afterAll past).reload c).2.deactivated =
      (afterAll (past ++ [c])).languages.filter (· ∉ c.named) := by
  have hdeactivated : ((afterAll past).reload c).2.deactivated =
      ((afterAll (past ++ [c])).providers.values.filter fun p => !p.isActive).map
        Provider.language := by
    rw [afterAll_append_singleton]
    rfl
  rw [hdeactivated, languages]
  apply map_filter_values
  intro k p hp
  refine ⟨afterAll_labelled (past ++ [c]) k p hp, ?_⟩
  rw [getElem?_afterAll] at hp
  by_cases hk : k ∈ c.named
  · rw [if_pos hk, Option.some.injEq] at hp
    simp [← hp, hk]
  · rw [if_neg hk, Option.ite_none_right_eq_some] at hp
    simp [← Option.some.inj hp.2, hk]

/-- Every action that is offered belongs to a language that the settings of its time name. -/
theorem language_mem_of_query {past : List Configuration} {c : Configuration} {q : Query}
    {action : CandidateAction} (hoffered : action ∈ (afterAll (past ++ [c])).query q) :
    action.language ∈ c.named := by
  rw [query_afterAll] at hoffered
  by_cases hk : q.document.language ∈ c.named
  · rw [if_pos hk, Provider.provide, if_pos rfl, List.mem_filterMap] at hoffered
    obtain ⟨rule, _, hoffer⟩ := hoffered
    obtain ⟨m, _, hm⟩ := Option.map_eq_some_iff.mp hoffer
    rw [← hm]
    exact hk
  · rw [if_neg hk] at hoffered
    cases hoffered

/-- Resolving depends on an engine only by whether it serves the language of the action, and on the
edit that the action has not at all. -/
theorem resolve_eq (e own : Engine) (action : CandidateAction) (stale : Option WorkspaceEdit)
    (source : DocumentSource) (hown : own.isActive action.language = true) :
    e.resolve { action with edit := stale } source =
      if e.isActive action.language then own.resolve action source
      else (.unresolved (.providerInactive action.language), { action with edit := none }) := by
  have hedits : CandidateAction.resolveEdits { action with edit := stale } source =
      action.resolveEdits source := rfl
  by_cases hactive : e.isActive action.language = true
  · rw [if_pos hactive, resolve, if_pos hactive, resolve, if_pos hown, hedits]
  · rw [if_neg hactive, resolve, if_neg hactive]

/-- All that is left of earlier settings once the last of a row are read: which languages are kept,
and the actions that were offered, which are served as before if their language is. -/
structure Renewed (past : List Configuration) (c : Configuration) : Prop where
  offered : ∀ q, (afterAll (past ++ [c])).query q = (afterAll [c]).query q
  ordered : (afterAll (past ++ [c])).languages.Pairwise (· < ·)
  kept : ∀ k, k ∈ (afterAll (past ++ [c])).languages ↔ ∃ own ∈ past ++ [c], k ∈ own.named
  active : ∀ k, (afterAll (past ++ [c])).isActive k = true ↔ k ∈ c.named
  summary : ((afterAll past).reload c).2 =
    ⟨(c.named.filter (· ∉ past.flatMap Configuration.named)).eraseDups,
      (afterAll (past ++ [c])).languages.filter (· ∉ c.named)⟩
  resolved : ∀ earlier own later, earlier ++ own :: later = past ++ [c] →
    ∀ q, ∀ action ∈ (afterAll (earlier ++ [own])).query q, ∀ stale source,
      (afterAll (past ++ [c])).resolve { action with edit := stale } source =
        if action.language ∈ c.named then (afterAll (earlier ++ [own])).resolve action source
        else (.unresolved (.providerInactive action.language), { action with edit := none })

theorem afterAll_renewed (past : List Configuration) (c : Configuration) : Renewed past c where
  offered q := by
    rw [query_afterAll, ← List.nil_append [c], query_afterAll]
  ordered := languages_pairwise_lt _
  kept := mem_languages_afterAll_iff _
  active := isActive_afterAll_iff past c
  summary := by
    rw [← registered_reload, ← deactivated_reload]
  resolved := by
    intro earlier own later _ q action hoffered stale source
    have hown := (isActive_afterAll_iff earlier own _).mpr (language_mem_of_query hoffered)
    rw [resolve_eq _ _ action stale source hown]
    simp only [isActive_afterAll_iff]

end Engine

namespace ReloadWitness

def rule : Rule := ⟨"t", [], none, [.insert "a"], none, true⟩

def serving : Configuration := ⟨{}, [⟨["rust"], [rule]⟩]⟩

def query : Query := ⟨⟨⟨"/a"⟩, "rust", 0, []⟩, ⟨⟨0, 0⟩, ⟨0, 0⟩⟩, []⟩

def offer : CandidateAction := ⟨"t", "rust", ⟨"/a"⟩, rule, ⟨none, none⟩, {}, none⟩

def source : DocumentSource :=
  ⟨some query.document, [query.document], DocumentSource.scan [query.document], fun _ => none⟩

theorem query_serving : (Engine.afterAll [serving]).query query = [offer] := by
  rw [← List.nil_append [serving], Engine.query_afterAll]
  cbv

/-- An action that was offered, held on to while its language is dropped and named again. -/
theorem renewed_offer :
    (Engine.afterAll [serving, {}]).resolve offer source =
        (.unresolved (.providerInactive "rust"), offer) ∧
      (Engine.afterAll [serving, {}, serving]).resolve offer source =
        (Engine.afterAll [serving]).resolve offer source := by
  have hoffered : offer ∈ (Engine.afterAll ([] ++ [serving])).query query := by
    rw [List.nil_append, query_serving]
    exact List.mem_cons_self
  constructor
  · exact (Engine.afterAll_renewed [serving] {}).resolved [] serving [{}] rfl query offer hoffered
      none source
  · exact (Engine.afterAll_renewed [serving, {}] serving).resolved [] serving [{}, serving] rfl
      query offer hoffered none source

end ReloadWitness

end QuickFix
