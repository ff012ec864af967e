import QuickFix.Proofs.Reload
import QuickFix.Proofs.Scanning
import QuickFix.Proofs.Suppression

/-!
When rules are offered. A rule is offered if its gates pass and it is not a single insertion whose
text is there already; what it is offered with is the first diagnostic that a pattern matches and
the last match around the cursor. A new engine offers what the rules of its settings offer, set by
set, and for a set that names a language twice all of it twice.
-/

namespace QuickFix

namespace Rule

/-- The match of the first of some patterns that matches the message of a diagnostic. -/
def FirstPattern (patterns : List Regex) (d : Diagnostic) (captured : Captured) : Prop :=
  ∃ front re behind spans, patterns = front ++ re :: behind ∧
    (∀ other ∈ front, other.matchFrom? d.message.toList 0 = none) ∧
    re.matchFrom? d.message.toList 0 = some spans ∧ captured = .ofSpans re d.message.toList spans

/-- The first of some diagnostics that any pattern matches, with the first such pattern. -/
def FirstDiagnostic (patterns : List Regex) (diagnostics : List Diagnostic) (m : DiagnosticMatch) :
    Prop :=
  ∃ front behind, diagnostics = front ++ m.diagnostic :: behind ∧
    (∀ other ∈ front, ∀ re ∈ patterns, re.matchFrom? other.message.toList 0 = none) ∧
    FirstPattern patterns m.diagnostic m.captured

/-- The evidence for a rule: a diagnostic exactly if the rule has patterns for one, and a match
around the cursor exactly if it has a pattern for that. -/
structure Evident (rule : Rule) (q : Query) (evidence : Evidence) : Prop where
  diagnostic : rule.diagnosticPatterns = [] ∧ evidence.diagnostic = none ∨
    ∃ m, FirstDiagnostic rule.diagnosticPatterns q.diagnostics m ∧ evidence.diagnostic = some m
  cursor : rule.cursorPattern = none ∧ evidence.cursor = none ∨
    ∃ re m, rule.cursorPattern = some re ∧
      re.LastCovering q.document.chars (q.document.offsetAt q.range.start) m ∧
      evidence.cursor = some ⟨.ofSpans re q.document.chars m, Regex.Spans.whole m⟩

/-- Whether a rule is a single insertion into the queried document, not written as a list, and its
text stands there already, a line feed at its end left away. -/
def Applied (rule : Rule) (q : Query) (tables : Tables) (evidence : Evidence) : Prop :=
  ∃ step, rule.InsertsHere step ∧ rule.explicit = false ∧
    Document.needle ((renderer q tables evidence).render step.text) <:+: q.document.chars

/-- Whether some diagnostic of a query matches a pattern of a rule, if it has any. -/
def DiagnosticGate (rule : Rule) (q : Query) : Prop :=
  rule.diagnosticPatterns = [] ∨ ∃ d ∈ q.diagnostics, ∃ re ∈ rule.diagnosticPatterns,
    re.matchesIn d.message.toList = true

/-- Whether some match of the pattern of a rule holds the cursor, if it has one. -/
def CursorGate (rule : Rule) (q : Query) : Prop :=
  ∀ re, rule.cursorPattern = some re → ∃ m, re.Finds q.document.chars m ∧
    m.Covers (q.document.offsetAt q.range.start)

variable {rule : Rule} {q : Query} {evidence : Evidence}

theorem matchDiagnostic?_eq_some_iff {patterns : List Regex} {d : Diagnostic}
    {m : DiagnosticMatch} : matchDiagnostic? patterns d = some m ↔
      m.diagnostic = d ∧ FirstPattern patterns d m.captured := by
  rw [matchDiagnostic?, List.findSome?_eq_some_iff]
  constructor
  · rintro ⟨front, re, behind, hpatterns, hmatch, hfront⟩
    obtain ⟨spans, hspans, rfl⟩ := Option.map_eq_some_iff.mp hmatch
    exact ⟨rfl, front, re, behind, spans, hpatterns,
      fun other hother => Option.map_eq_none_iff.mp (hfront other hother), hspans, rfl⟩
  · rintro ⟨rfl, front, re, behind, spans, hpatterns, hfront, hspans, hcaptured⟩
    exact ⟨front, re, behind, hpatterns, by rw [hspans, Option.map_some, ← hcaptured],
      fun other hother => by rw [hfront other hother, Option.map_none]⟩

theorem matchDiagnostic?_eq_none_iff {patterns : List Regex} {d : Diagnostic} :
    matchDiagnostic? patterns d = none ↔
      ∀ re ∈ patterns, re.matchFrom? d.message.toList 0 = none := by
  simp only [matchDiagnostic?, List.findSome?_eq_none_iff, Option.map_eq_none_iff]

theorem diagnosticGate?_eq_some_iff {m : DiagnosticMatch} : rule.diagnosticGate? q = some m ↔
    FirstDiagnostic rule.diagnosticPatterns q.diagnostics m := by
  rw [diagnosticGate?, List.findSome?_eq_some_iff]
  simp only [matchDiagnostic?_eq_some_iff, matchDiagnostic?_eq_none_iff]
  constructor
  · rintro ⟨front, d, behind, hdiagnostics, ⟨rfl, hfirst⟩, hfront⟩
    exact ⟨front, behind, hdiagnostics, hfront, hfirst⟩
  · rintro ⟨front, behind, hdiagnostics, hfront, hfirst⟩
    exact ⟨front, m.diagnostic, behind, hdiagnostics, ⟨rfl, hfirst⟩, hfront⟩

theorem exists_diagnosticGate?_iff : (∃ m, rule.diagnosticGate? q = some m) ↔
    ∃ d ∈ q.diagnostics, ∃ re ∈ rule.diagnosticPatterns, re.matchesIn d.message.toList = true := by
  have hnone : rule.diagnosticGate? q = none ↔ ∀ d ∈ q.diagnostics,
      ∀ re ∈ rule.diagnosticPatterns, re.matchFrom? d.message.toList 0 = none := by
    simp only [diagnosticGate?, List.findSome?_eq_none_iff, matchDiagnostic?_eq_none_iff]
  rw [← Option.ne_none_iff_exists', ne_eq, hnone]
  push Not
  simp only [Regex.matchesIn, Option.isSome_iff_ne_none]

/-- What the gate for diagnostics comes to: nothing if it is closed. -/
def diagnosticEvidence? (rule : Rule) (q : Query) : Option (Option DiagnosticMatch) :=
  if rule.isDiagnosticGated then (rule.diagnosticGate? q).map some else some none

/-- What the gate for the cursor comes to. -/
def cursorEvidence? (rule : Rule) (q : Query) : Option (Option Enclosing) :=
  match rule.cursorPattern with
  | some pattern => (cursorGate? pattern q).map some
  | none => some none

theorem evidence?_eq_bind (rule : Rule) (q : Query) : rule.evidence? q =
    (rule.diagnosticEvidence? q).bind fun diagnostic =>
      (rule.cursorEvidence? q).map fun cursor => ⟨diagnostic, cursor⟩ := by
  unfold evidence? diagnosticEvidence? cursorEvidence?
  cases rule.isDiagnosticGated <;> cases rule.diagnosticGate? q <;> cases rule.cursorPattern <;>
    simp [Option.map_eq_bind]

theorem diagnosticEvidence?_eq_some_iff {found : Option DiagnosticMatch} :
    rule.diagnosticEvidence? q = some found ↔
      rule.diagnosticPatterns = [] ∧ found = none ∨
        ∃ m, FirstDiagnostic rule.diagnosticPatterns q.diagnostics m ∧ found = some m := by
  unfold diagnosticEvidence?
  by_cases hpatterns : rule.diagnosticPatterns = []
  · have hopen : rule.isDiagnosticGated = false := by simp [isDiagnosticGated, hpatterns]
    rw [hopen, if_neg Bool.false_ne_true]
    constructor
    · exact fun hfound => .inl ⟨hpatterns, (Option.some.inj hfound).symm⟩
    · rintro (⟨_, rfl⟩ | ⟨m, ⟨_, _, _, _, front, re, behind, _, happend, _⟩, _⟩)
      · rfl
      · simp [hpatterns] at happend
  · have hgated : rule.isDiagnosticGated = true := by simp [isDiagnosticGated, hpatterns]
    rw [hgated, if_pos rfl, Option.map_eq_some_iff]
    simp only [diagnosticGate?_eq_some_iff]
    constructor
    · rintro ⟨m, hm, rfl⟩
      exact .inr ⟨m, hm, rfl⟩
    · rintro (⟨hnone, _⟩ | ⟨m, hm, rfl⟩)
      · exact absurd hnone hpatterns
      · exact ⟨m, hm, rfl⟩

theorem cursorEvidence?_eq_some_iff
    (hcompiled : ∀ re, rule.cursorPattern = some re → re.Compiled) {found : Option Enclosing} :
    rule.cursorEvidence? q = some found ↔
      rule.cursorPattern = none ∧ found = none ∨
        ∃ re m, rule.cursorPattern = some re ∧
          re.LastCovering q.document.chars (q.document.offsetAt q.range.start) m ∧
          found = some ⟨.ofSpans re q.document.chars m, Regex.Spans.whole m⟩ := by
  unfold cursorEvidence?
  cases hpattern : rule.cursorPattern with
  | none => simp [eq_comm]
  | some re =>
      have hgate : ∀ enclosing, cursorGate? re q = some enclosing ↔ _ := fun enclosing =>
        Locate.enclosing?_eq_some_iff (hcompiled re hpattern)
      simp only [Option.map_eq_some_iff, hgate]
      constructor
      · rintro ⟨_, ⟨m, hlast, rfl⟩, rfl⟩
        exact .inr ⟨re, m, rfl, hlast, rfl⟩
      · rintro (⟨hnone, _⟩ | ⟨re', m, hre, hlast, rfl⟩)
        · cases hnone
        · obtain rfl := Option.some.inj hre
          exact ⟨_, ⟨m, hlast, rfl⟩, rfl⟩

theorem evidence?_eq_some_iff (hcompiled : ∀ re, rule.cursorPattern = some re → re.Compiled) :
    rule.evidence? q = some evidence ↔ rule.Evident q evidence := by
  simp only [evidence?_eq_bind, Option.bind_eq_some_iff, Option.map_eq_some_iff,
    diagnosticEvidence?_eq_some_iff, cursorEvidence?_eq_some_iff hcompiled]
  constructor
  · rintro ⟨diagnostic, hdiagnostic, cursor, hcursor, rfl⟩
    exact ⟨hdiagnostic, hcursor⟩
  · rintro ⟨hdiagnostic, hcursor⟩
    exact ⟨_, hdiagnostic, _, hcursor, rfl⟩

theorem exists_evident_iff (hcompiled : ∀ re, rule.cursorPattern = some re → re.Compiled) :
    (∃ evidence, rule.Evident q evidence) ↔ rule.DiagnosticGate q ∧ rule.CursorGate q := by
  have hdiagnostic : rule.DiagnosticGate q ↔ rule.diagnosticPatterns = [] ∨
      ∃ m, FirstDiagnostic rule.diagnosticPatterns q.diagnostics m := by
    simp only [DiagnosticGate, ← exists_diagnosticGate?_iff, diagnosticGate?_eq_some_iff]
  have hcursor : ∀ re, rule.cursorPattern = some re →
      ((∃ m, re.LastCovering q.document.chars (q.document.offsetAt q.range.start) m) ↔
        ∃ m, re.Finds q.document.chars m ∧ m.Covers (q.document.offsetAt q.range.start)) := by
    intro re hre
    rw [← Locate.exists_enclosing?_iff (hcompiled re hre)]
    simp only [Locate.enclosing?_eq_some_iff (hcompiled re hre)]
    exact ⟨fun ⟨m, hm⟩ => ⟨_, m, hm, rfl⟩, fun ⟨_, m, hm, _⟩ => ⟨m, hm⟩⟩
  rw [hdiagnostic]
  constructor
  · rintro ⟨evidence, hfirst, hlast⟩
    constructor
    · rcases hfirst with ⟨hnone, _⟩ | ⟨m, hm, _⟩
      · exact .inl hnone
      · exact .inr ⟨m, hm⟩
    · intro re hre
      rcases hlast with ⟨hnone, _⟩ | ⟨re', m, hre', hm, _⟩
      · exact nomatch hnone.symm.trans hre
      · obtain rfl := Option.some.inj (hre'.symm.trans hre)
        exact (hcursor re' hre).mp ⟨m, hm⟩
  · rintro ⟨hfirst, hgate⟩
    have hdiagnosticFound : ∃ found, rule.diagnosticPatterns = [] ∧ found = none ∨
        ∃ m, FirstDiagnostic rule.diagnosticPatterns q.diagnostics m ∧ found = some m := by
      rcases hfirst with hnone | ⟨m, hm⟩
      · exact ⟨none, .inl ⟨hnone, rfl⟩⟩
      · exact ⟨some m, .inr ⟨m, hm, rfl⟩⟩
    obtain ⟨diagnostic, hfound⟩ := hdiagnosticFound
    cases hpattern : rule.cursorPattern with
    | none => exact ⟨⟨diagnostic, none⟩, hfound, .inl ⟨hpattern, rfl⟩⟩
    | some re =>
        obtain ⟨m, hm⟩ := (hcursor re hpattern).mpr (hgate re hpattern)
        exact ⟨⟨diagnostic, _⟩, hfound, .inr ⟨re, m, hpattern, hm, rfl⟩⟩

theorem exists_of_presentText? {text : String} (htext : rule.presentText? = some text) :
    ∃ step, rule.InsertsHere step ∧ rule.explicit = false ∧ step.text = text := by
  unfold presentText? at htext
  split at htext
  · cases htext
  · rename_i hplain
    simp only [Bool.or_eq_true, not_or, Bool.not_eq_true, Option.isSome_eq_false_iff,
      Option.isNone_iff_eq_none] at hplain
    split at htext
    · rename_i step hsteps
      split at htext
      · rename_i anchor locate hinsert htarget
        exact ⟨step, ⟨hsteps, hplain.2, htarget, anchor, locate, hinsert⟩, hplain.1,
          Option.some.inj htext⟩
      · cases htext
    · cases htext

theorem applied_iff {tables : Tables} : rule.Applied q tables evidence ↔
    ∃ text, rule.presentText? = some text ∧
      q.document.holdsLiteral ((renderer q tables evidence).render text) = true := by
  simp only [Document.holdsLiteral_iff]
  constructor
  · rintro ⟨step, hinserts, himplicit, hpart⟩
    exact ⟨step.text, hinserts.presentText? himplicit, hpart⟩
  · rintro ⟨text, htext, hpart⟩
    obtain ⟨step, hinserts, himplicit, rfl⟩ := exists_of_presentText? htext
    exact ⟨step, hinserts, himplicit, hpart⟩

theorem test?_of_evidence? (tables : Tables) (hevidence : rule.evidence? q = some evidence) :
    (rule.Applied q tables evidence → rule.test? q tables = none) ∧
      (¬ rule.Applied q tables evidence → rule.test? q tables =
        some ⟨(renderer q tables evidence).render rule.title, evidence⟩) := by
  rw [applied_iff, test?, hevidence]
  cases htext : rule.presentText? with
  | none => simp
  | some text =>
      cases hpresent : q.document.holdsLiteral ((renderer q tables evidence).render text) <;>
        simp [hpresent]

theorem test?_eq_some_iff {tables : Tables} {m : RuleMatch} : rule.test? q tables = some m ↔
    ∃ evidence, rule.evidence? q = some evidence ∧ ¬ rule.Applied q tables evidence ∧
      m = ⟨(renderer q tables evidence).render rule.title, evidence⟩ := by
  cases hevidence : rule.evidence? q with
  | none => simp [test?, hevidence]
  | some evidence =>
      obtain ⟨hwithheld, hoffered⟩ := test?_of_evidence? tables hevidence
      simp only [Option.some.injEq, exists_eq_left']
      by_cases happlied : rule.Applied q tables evidence
      · simp [hwithheld happlied, happlied]
      · rw [hoffered happlied]
        exact ⟨fun hm => ⟨happlied, (Option.some.inj hm).symm⟩, fun hm => hm.2 ▸ rfl⟩

/-- When a rule matches a query, and with what. -/
structure Tests (rule : Rule) (q : Query) (tables : Tables) : Prop where
  matches_iff : (∃ m, rule.test? q tables = some m) ↔
    rule.DiagnosticGate q ∧ rule.CursorGate q ∧
      ∀ evidence, rule.Evident q evidence → ¬ rule.Applied q tables evidence
  eq_some_iff : ∀ m, rule.test? q tables = some m ↔
    ∃ evidence, rule.Evident q evidence ∧ ¬ rule.Applied q tables evidence ∧
      m = ⟨(renderer q tables evidence).render rule.title, evidence⟩
  evident_unique : ∀ evidence other, rule.Evident q evidence → rule.Evident q other →
    evidence = other

theorem tests (hcompiled : ∀ re, rule.cursorPattern = some re → re.Compiled) (q : Query)
    (tables : Tables) : rule.Tests q tables := by
  have hevidence : ∀ evidence, rule.evidence? q = some evidence ↔ rule.Evident q evidence :=
    fun _ => evidence?_eq_some_iff hcompiled
  have hsome : ∀ m, rule.test? q tables = some m ↔
      ∃ evidence, rule.Evident q evidence ∧ ¬ rule.Applied q tables evidence ∧
        m = ⟨(renderer q tables evidence).render rule.title, evidence⟩ := by
    intro m
    simp only [test?_eq_some_iff, hevidence]
  have hunique : ∀ evidence other, rule.Evident q evidence → rule.Evident q other →
      evidence = other := by
    intro evidence other hfirst hsecond
    exact Option.some.inj
      (((hevidence evidence).mpr hfirst).symm.trans ((hevidence other).mpr hsecond))
  refine ⟨?_, hsome, hunique⟩
  rw [← and_assoc, ← exists_evident_iff hcompiled]
  constructor
  · rintro ⟨m, hm⟩
    obtain ⟨evidence, hevident, happlied, _⟩ := (hsome m).mp hm
    refine ⟨⟨evidence, hevident⟩, fun other hother => ?_⟩
    exact hunique evidence other hevident hother ▸ happlied
  · rintro ⟨⟨evidence, hevident⟩, happlied⟩
    exact ⟨_, (hsome _).mpr ⟨evidence, hevident, happlied evidence hevident, rfl⟩⟩

end Rule

section Copies

variable {α β : Type} (l : List α) (count : α → Nat) (f : α → List β)

/-- The members of lists, those of each list as often as it is counted. -/
def copies : List β := l.flatMap fun a => (List.replicate (count a) (f a)).flatten

/-- The members of the lists that are counted. -/
def counted : List β := (l.filter fun a => 0 < count a).flatMap f

theorem copies_cons (a : α) : copies (a :: l) count f =
    (List.replicate (count a) (f a)).flatten ++ copies l count f := List.flatMap_cons

theorem counted_cons (a : α) : counted (a :: l) count f =
    (if 0 < count a then f a else []) ++ counted l count f := by
  unfold counted
  split
  · rename_i hpos
    rw [List.filter_cons_of_pos (by simpa using hpos), List.flatMap_cons]
  · rename_i hzero
    rw [List.filter_cons_of_neg (by simpa using hzero), List.nil_append]

theorem length_flatten_replicate (n : Nat) (xs : List β) :
    (List.replicate n xs).flatten.length = n * xs.length := by simp

theorem length_counted_le : (counted l count f).length ≤ (copies l count f).length := by
  induction l with
  | nil => exact Nat.le_refl _
  | cons a rest ih =>
      rw [copies_cons, counted_cons, List.length_append, List.length_append,
        length_flatten_replicate]
      split
      · rename_i hpos
        exact Nat.add_le_add (Nat.le_mul_of_pos_left _ hpos) ih
      · exact Nat.add_le_add (Nat.zero_le _) ih

theorem flatten_replicate_of_once {n : Nat} {xs : List β} (honce : n ≤ 1 ∨ xs = []) :
    (List.replicate n xs).flatten = if 0 < n then xs else [] := by
  rcases honce with hn | rfl
  · obtain rfl | rfl : n = 0 ∨ n = 1 := by omega
    · rfl
    · simp
  · simp

/-- Nothing is there more often than once exactly if no list that holds anything is counted twice.
-/
theorem copies_eq_counted_iff :
    copies l count f = counted l count f ↔ ∀ a ∈ l, count a ≤ 1 ∨ f a = [] := by
  induction l with
  | nil => simp [copies, counted]
  | cons a rest ih =>
      rw [List.forall_mem_cons, ← ih, copies_cons, counted_cons]
      constructor
      · intro hsame
        have honce : count a ≤ 1 ∨ f a = [] := by
          refine Classical.byContradiction fun hmany => ?_
          obtain ⟨hcount, hne⟩ := not_or.mp hmany
          have hpos := List.length_pos_iff.mpr hne
          have htwice : 2 * (f a).length ≤ count a * (f a).length :=
            Nat.mul_le_mul_right _ (by omega)
          have hrest := length_counted_le rest count f
          have hsum := congrArg List.length hsame
          rw [List.length_append, List.length_append, length_flatten_replicate,
            if_pos (by omega)] at hsum
          omega
        rw [flatten_replicate_of_once honce] at hsame
        exact ⟨honce, List.append_cancel_left hsame⟩
      · rintro ⟨honce, hrest⟩
        rw [flatten_replicate_of_once honce, hrest]

end Copies

/-- What the rules of a set offer, in their order. -/
def ActionSet.offers (set : ActionSet) (q : Query) (tables : Tables) : List CandidateAction :=
  set.rules.filterMap fun rule => (rule.test? q tables).map fun m =>
    ⟨m.title, q.document.language, q.document.path, rule, m.evidence, tables, none⟩

namespace Configuration

theorem setsFor_eq_flatMap (c : Configuration) (language : String) : c.setsFor language =
    c.sets.flatMap fun set => List.replicate (set.languages.count language) set.rules := by
  rw [setsFor, mentions, List.filter_flatMap, List.map_flatMap]
  congr 1
  funext set
  induction set.languages with
  | nil => rfl
  | cons first rest ih =>
      by_cases hfirst : first = language
      · simpa [hfirst, List.replicate_succ] using ih
      · simpa [hfirst] using ih

/-- What a new engine offers once it has the settings: what the rules of each set offer, as often as
the set names the language. -/
theorem query_reload (c : Configuration) (q : Query) : (({} : Engine).reload c).1.query q =
    copies c.sets (fun set => set.languages.count q.document.language)
      fun set => set.offers q c.tables := by
  have hquery := Engine.query_afterAll [] c q
  rw [List.nil_append] at hquery
  refine hquery.trans ?_
  by_cases hnamed : q.document.language ∈ c.named
  · rw [if_pos hnamed, Provider.provide, if_pos rfl, setsFor_eq_flatMap, copies]
    rw [← List.flatMap_id, List.filterMap_flatMap, List.flatMap_assoc]
    congr 1
    funext set
    rw [List.flatMap_def, List.map_replicate]
    rfl
  · rw [if_neg hnamed, copies, Eq.comm, List.flatMap_eq_nil_iff]
    intro set hset
    have hcount : set.languages.count q.document.language = 0 :=
      List.count_eq_zero.mpr fun hmem => hnamed (List.mem_flatMap.mpr ⟨set, hset, hmem⟩)
    rw [hcount, List.replicate_zero, List.flatten_nil]

/-- What a new engine offers once it has the settings, and when that is what the rules of the sets
that name the language offer, each set taken once. -/
structure Offers (c : Configuration) (q : Query) : Prop where
  query_eq : (({} : Engine).reload c).1.query q = c.sets.flatMap fun set =>
    (List.replicate (set.languages.count q.document.language) (set.offers q c.tables)).flatten
  once_iff : (({} : Engine).reload c).1.query q =
      (c.sets.filter fun set => q.document.language ∈ set.languages).flatMap
        (fun set => set.offers q c.tables) ↔
    ∀ set ∈ c.sets, set.languages.count q.document.language ≤ 1 ∨ set.offers q c.tables = []

theorem offers (c : Configuration) (q : Query) : c.Offers q where
  query_eq := c.query_reload q
  once_iff := by
    have hnames : (fun set : ActionSet => decide (q.document.language ∈ set.languages)) =
        fun set => decide (0 < set.languages.count q.document.language) := by
      funext set
      simp only [List.count_pos_iff]
    rw [query_reload, hnames]
    exact copies_eq_counted_iff _ _ _

end Configuration

/-- Every rule is matched exactly where its gates pass and it is not applied yet, and a new engine
offers what the rules of its settings match. -/
theorem Rule.tests_and_offers {rule : Rule}
    (hcompiled : ∀ re, rule.cursorPattern = some re → re.Compiled) (q : Query) (tables : Tables)
    (c : Configuration) : rule.Tests q tables ∧ c.Offers q :=
  ⟨rule.tests hcompiled q tables, c.offers q⟩

namespace GatesWitness

def document : Document := ⟨⟨"/w/a.rs"⟩, "rust", 0, "fn main() \x7b\x7d\n".toList⟩

def query : Query := ⟨document, ⟨⟨0, 1⟩, ⟨0, 1⟩⟩, []⟩

def rule : Rule := ⟨"t", [], some (.letter 'n'), [.insert "x"], none, true⟩

/-- A set that names its language twice. -/
def twice : ActionSet := ⟨["rust", "rust"], [rule]⟩

theorem compiled : ∀ re, rule.cursorPattern = some re → re.Compiled := by
  rintro re hre
  obtain rfl := Option.some.inj hre
  exact Regex.compiled_letter (by decide)

theorem length_offers : (twice.offers query {}).length = 1 := by cbv

/-- A rule around a letter, and settings with it. -/
theorem tests_and_offers_twice :
    (∀ re, rule.cursorPattern = some re → re.Compiled) ∧ rule.Tests query {} ∧
      (Configuration.mk {} [twice]).Offers query ∧ ∃ m, rule.test? query {} = some m := by
  obtain ⟨htests, hoffers⟩ := Rule.tests_and_offers compiled query {} ⟨{}, [twice]⟩
  exact ⟨compiled, htests, hoffers, _, by cbv⟩

/-- The set is not taken once: what it offers is offered twice. -/
theorem not_once : ¬ (({} : Engine).reload ⟨{}, [twice]⟩).1.query query =
    ([twice].filter fun set => query.document.language ∈ set.languages).flatMap
      (fun set => set.offers query {}) := by
  intro honce
  rcases (Configuration.offers ⟨{}, [twice]⟩ query).once_iff.mp honce twice (by simp) with
    hcount | hempty
  · simp [twice, query, document] at hcount
  · exact nomatch (congrArg List.length hempty).symm.trans length_offers

end GatesWitness

end QuickFix
