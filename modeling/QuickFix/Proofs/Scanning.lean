import QuickFix.Locate.Basic
import QuickFix.Proofs.Match

/-!
All matches of an expression in a text. They come from left to right without overlapping, each ends
further right than the one before, and none is left out however many there are. So of the matches
that hold a cursor the last one is the one that ends furthest right.
-/

namespace QuickFix

/-- On a list whose members have a property only if those before them do, the members in front that
have it are all that have it. -/
theorem takeWhile_eq_filter {α : Type} {p : α → Bool} {l : List α}
    (hmono : l.Pairwise fun a b => p b = true → p a = true) : l.takeWhile p = l.filter p := by
  induction l with
  | nil => rfl
  | cons a rest ih =>
      obtain ⟨hfirst, hrest⟩ := List.pairwise_cons.mp hmono
      by_cases ha : p a = true
      · rw [List.takeWhile_cons_of_pos ha, List.filter_cons_of_pos ha, ih hrest]
      · have hnone : rest.filter p = [] :=
          List.filter_eq_nil_iff.mpr fun b hb hpb => ha (hfirst b hb hpb)
        rw [List.takeWhile_cons_of_neg ha, List.filter_cons_of_neg ha, hnone]

namespace Regex

/-- The matches that are found when a text is searched for one behind the other. -/
inductive Finds (re : Regex) (text : List Char) : Spans → Prop where
  | first {m : Spans} : re.matchFrom? text 0 = some m → Finds re text m
  | next {m m' : Spans} : Finds re text m →
      re.nextMatch? text (Spans.whole m).stop = some m' → Finds re text m'

/-- Whether a match ends where or before another one starts, which ends further right. -/
def Spans.Before (a b : Spans) : Prop :=
  (whole a).stop ≤ (whole b).start ∧ (whole a).stop < (whole b).stop

/-- Whether a match holds a cursor, perhaps at one of its ends. -/
def Spans.Covers (m : Spans) (cursor : Nat) : Prop :=
  (whole m).start ≤ cursor ∧ cursor ≤ (whole m).stop

/-- Of the matches that hold a cursor the one that ends furthest right. -/
structure LastCovering (re : Regex) (text : List Char) (cursor : Nat) (m : Spans) : Prop where
  finds : re.Finds text m
  covers : m.Covers cursor
  last : ∀ other, re.Finds text other → other.Covers cursor →
    (Spans.whole other).stop ≤ (Spans.whole m).stop

variable {re : Regex} {text : List Char}

namespace Compiled

variable (hcompiled : re.Compiled)
include hcompiled

theorem whole_of_nextMatch? {stop : Nat} {m : Spans}
    (hnext : re.nextMatch? text stop = some m) :
    stop ≤ (Spans.whole m).start ∧ stop < (Spans.whole m).stop ∧
      (Spans.whole m).stop ≤ text.length := by
  unfold nextMatch? at hnext
  split at hnext
  · cases hnext
  · rename_i spans hspans
    split at hnext
    · have hwhole := hcompiled.whole_of_matchFrom? hnext
      omega
    · rename_i hne
      obtain rfl := Option.some.inj hnext
      have hwhole := hcompiled.whole_of_matchFrom? hspans
      cases hspan : Spans.whole spans with
      | mk first last =>
          simp only [hspan, Span.mk.injEq] at hne hwhole ⊢
          omega

theorem before_of_mem_matchesBehind {fuel stop : Nat} {m : Spans}
    (hmem : m ∈ re.matchesBehind text fuel (re.nextMatch? text stop)) :
    stop ≤ (Spans.whole m).start ∧ stop < (Spans.whole m).stop := by
  induction fuel generalizing stop with
  | zero => cases hmem
  | succ fuel ih =>
      cases hnext : re.nextMatch? text stop with
      | none =>
          rw [hnext] at hmem
          cases hmem
      | some next =>
          have hbehind := hcompiled.whole_of_nextMatch? hnext
          rw [hnext, matchesBehind] at hmem
          rcases List.mem_cons.mp hmem with rfl | hmem
          · exact ⟨hbehind.1, hbehind.2.1⟩
          · have hrest := ih hmem
            omega

theorem pairwise_matchesBehind (fuel : Nat) (next : Option Spans) :
    (re.matchesBehind text fuel next).Pairwise Spans.Before := by
  induction fuel generalizing next with
  | zero => exact .nil
  | succ fuel ih =>
      cases next with
      | none => exact .nil
      | some m =>
          rw [matchesBehind]
          exact .cons (fun other hother => hcompiled.before_of_mem_matchesBehind hother) (ih _)

/-- As long as there is fuel for what is left of the text, the match behind one that is listed is
listed as well: each costs one fuel, and raises the least place where a match can end by one. -/
theorem next_mem_matchesBehind {fuel bound : Nat} {next : Option Spans}
    (hbound : ∀ m, next = some m → bound ≤ (Spans.whole m).stop)
    (hfuel : text.length + 1 < fuel + bound) {m m' : Spans}
    (hmem : m ∈ re.matchesBehind text fuel next)
    (hnext : re.nextMatch? text (Spans.whole m).stop = some m') :
    m' ∈ re.matchesBehind text fuel next := by
  induction fuel generalizing bound next with
  | zero => cases hmem
  | succ fuel ih =>
      cases next with
      | none => cases hmem
      | some head =>
          have hhead := hbound head rfl
          rw [matchesBehind] at hmem ⊢
          rcases List.mem_cons.mp hmem with rfl | hmem
          · have hbehind := hcompiled.whole_of_nextMatch? hnext
            cases fuel with
            | zero => omega
            | succ fuel =>
                rw [hnext, matchesBehind]
                exact List.mem_cons_of_mem _ List.mem_cons_self
          · have hbehind : ∀ other, re.nextMatch? text (Spans.whole head).stop = some other →
                bound + 1 ≤ (Spans.whole other).stop := by
              intro other hother
              have hwhole := hcompiled.whole_of_nextMatch? hother
              omega
            exact List.mem_cons_of_mem _ (ih hbehind (by omega) hmem)

theorem mem_allMatches_iff {m : Spans} : m ∈ re.allMatches text ↔ re.Finds text m := by
  constructor
  · have hfinds : ∀ (fuel : Nat) (next : Option Spans), (∀ m, next = some m → re.Finds text m) →
        ∀ m ∈ re.matchesBehind text fuel next, re.Finds text m := by
      intro fuel
      induction fuel with
      | zero => exact fun _ _ _ hmem => nomatch hmem
      | succ fuel ih =>
          intro next hnext m hmem
          cases next with
          | none => cases hmem
          | some head =>
              have hhead := hnext head rfl
              rw [matchesBehind] at hmem
              rcases List.mem_cons.mp hmem with rfl | hmem
              · exact hhead
              · exact ih _ (fun _ => .next hhead) m hmem
    exact hfinds _ _ (fun _ => .first) m
  · intro hfinds
    induction hfinds with
    | first hfirst =>
        rw [allMatches, hfirst, matchesBehind]
        exact List.mem_cons_self
    | next _ hnext ih =>
        have hbound : ∀ m, re.matchFrom? text 0 = some m → 0 ≤ (Spans.whole m).stop :=
          fun _ _ => Nat.zero_le _
        exact hcompiled.next_mem_matchesBehind hbound (by omega) ih hnext

theorem start_le_stop_of_finds {m : Spans} (hfinds : re.Finds text m) :
    (Spans.whole m).start ≤ (Spans.whole m).stop := by
  cases hfinds with
  | first hfirst => exact (hcompiled.whole_of_matchFrom? hfirst).2.1
  | next _ hnext =>
      unfold nextMatch? at hnext
      split at hnext
      · cases hnext
      · rename_i spans hspans
        split at hnext
        · exact (hcompiled.whole_of_matchFrom? hnext).2.1
        · exact Option.some.inj hnext ▸ (hcompiled.whole_of_matchFrom? hspans).2.1

end Compiled

end Regex

namespace Locate

open Regex

variable {re : Regex} {text : List Char}

/-- The matches that hold a cursor, from left to right. -/
def covering (text : List Char) (re : Regex) (cursor : Nat) : List Spans :=
  (re.allMatches text).filter fun m =>
    (Spans.whole m).start ≤ cursor && cursor ≤ (Spans.whole m).stop

theorem enclosing?_eq_getLast? (hcompiled : re.Compiled) (cursor : Nat) :
    enclosing? text re cursor =
      (covering text re cursor).getLast?.map fun m => ⟨.ofSpans re text m, Spans.whole m⟩ := by
  have hpairwise : (re.allMatches text).Pairwise Spans.Before :=
    hcompiled.pairwise_matchesBehind _ _
  have hreached : (re.allMatches text).takeWhile (fun m => (Spans.whole m).start ≤ cursor) =
      (re.allMatches text).filter fun m => (Spans.whole m).start ≤ cursor := by
    apply takeWhile_eq_filter
    apply List.Pairwise.imp_of_mem _ hpairwise
    intro a b ha _ hbefore hb
    have hfinds := hcompiled.mem_allMatches_iff.mp ha
    have hwhole := hcompiled.start_le_stop_of_finds hfinds
    have hstart := hbefore.1
    simp only [decide_eq_true_eq] at hb ⊢
    omega
  simp only [enclosing?, hreached, List.filter_filter, covering, Bool.and_comm]

theorem mem_covering_iff (hcompiled : re.Compiled) {cursor : Nat} {m : Spans} :
    m ∈ covering text re cursor ↔ re.Finds text m ∧ m.Covers cursor := by
  rw [covering, List.mem_filter, hcompiled.mem_allMatches_iff, Bool.and_eq_true,
    decide_eq_true_eq, decide_eq_true_eq, Spans.Covers]

theorem furthest_of_getLast? (hcompiled : re.Compiled) {cursor : Nat} {m : Spans}
    (hm : (covering text re cursor).getLast? = some m) :
    ∀ other ∈ covering text re cursor, other ≠ m →
      (Spans.whole other).stop < (Spans.whole m).stop := by
  have hpairwise : (covering text re cursor).Pairwise Spans.Before :=
    (hcompiled.pairwise_matchesBehind _ _).filter _
  obtain ⟨front, hfront⟩ := List.getLast?_eq_some_iff.mp hm
  rw [hfront] at hpairwise ⊢
  intro other hother hne
  have hmem : other ∈ front := by simpa [hne] using hother
  exact ((List.pairwise_append.mp hpairwise).2.2 other hmem m (by simp)).2

theorem getLast?_covering_eq_some_iff (hcompiled : re.Compiled) {cursor : Nat} {m : Spans} :
    (covering text re cursor).getLast? = some m ↔ re.LastCovering text cursor m := by
  constructor
  · intro hm
    obtain ⟨hfinds, hcovers⟩ := (mem_covering_iff hcompiled).mp (List.mem_of_getLast? hm)
    refine ⟨hfinds, hcovers, fun other hother hholds => ?_⟩
    have hmem := (mem_covering_iff hcompiled).mpr ⟨hother, hholds⟩
    by_cases heq : other = m
    · exact Nat.le_of_eq (by rw [heq])
    · exact Nat.le_of_lt (furthest_of_getLast? hcompiled hm other hmem heq)
  · intro hm
    have hmem := (mem_covering_iff hcompiled).mpr ⟨hm.finds, hm.covers⟩
    cases hend : (covering text re cursor).getLast? with
    | none =>
        rw [List.getLast?_eq_none_iff.mp hend] at hmem
        cases hmem
    | some m' =>
        obtain ⟨hfinds, hcovers⟩ := (mem_covering_iff hcompiled).mp (List.mem_of_getLast? hend)
        by_cases heq : m = m'
        · rw [heq]
        · have hlt := furthest_of_getLast? hcompiled hend m hmem heq
          have hle := hm.last m' hfinds hcovers
          omega

/-- The match around a cursor is the last of those that hold it. -/
theorem enclosing?_eq_some_iff (hcompiled : re.Compiled) {cursor : Nat} {found : Enclosing} :
    enclosing? text re cursor = some found ↔ ∃ m, re.LastCovering text cursor m ∧
      found = ⟨.ofSpans re text m, Spans.whole m⟩ := by
  rw [enclosing?_eq_getLast? hcompiled, Option.map_eq_some_iff]
  simp only [getLast?_covering_eq_some_iff hcompiled, eq_comm]

theorem exists_enclosing?_iff (hcompiled : re.Compiled) {cursor : Nat} :
    (∃ found, enclosing? text re cursor = some found) ↔
      ∃ m, re.Finds text m ∧ m.Covers cursor := by
  rw [enclosing?_eq_getLast? hcompiled, ← Option.isSome_iff_exists, Option.isSome_map,
    List.getLast?_isSome]
  constructor
  · intro hne
    obtain ⟨m, hm⟩ := List.exists_mem_of_ne_nil _ hne
    exact ⟨m, (mem_covering_iff hcompiled).mp hm⟩
  · rintro ⟨m, hm⟩
    exact List.ne_nil_of_mem ((mem_covering_iff hcompiled).mpr hm)

end Locate

end QuickFix
