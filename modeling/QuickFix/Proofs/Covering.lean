import QuickFix.Proofs.Replacement
import QuickFix.Proofs.Scanning

/-!
The match around a cursor. All matches of a text are told one by one, and of those that hold the
cursor, perhaps at an end, the last is taken. Stopping at the first match behind the cursor leaves
none of them out, since matches come from left to right.
-/

namespace QuickFix

namespace Regex

/-- All matches from a first one on: behind each the next one, until there is none. -/
inductive Successive (re : Regex) (text : List Char) : Option Spans → List Spans → Prop
  | none : Successive re text none []
  | cons {m : Spans} {ms : List Spans} :
      Successive re text (re.nextMatch? text (Spans.whole m).stop) ms →
        Successive re text (some m) (m :: ms)

instance (m : Spans) (cursor : Nat) : Decidable (m.Covers cursor) :=
  inferInstanceAs (Decidable (_ ∧ _))

variable {re : Regex} {text : List Char}

theorem Successive.unique {next : Option Spans} {ms other : List Spans}
    (hms : re.Successive text next ms) (hother : re.Successive text next other) : other = ms := by
  induction hms generalizing other with
  | none =>
      cases hother
      rfl
  | cons hrest ih =>
      cases hother with
      | cons hother => rw [ih hother]

namespace Compiled

variable (hcompiled : re.Compiled)
include hcompiled

/-- As long as there is fuel for what is left of the text, no match is left out. -/
theorem successive_matchesBehind {fuel bound : Nat} {next : Option Spans}
    (hbound : ∀ m, next = some m →
      bound ≤ (Spans.whole m).stop ∧ (Spans.whole m).stop ≤ text.length)
    (hfuel : text.length < fuel + bound) :
    re.Successive text next (re.matchesBehind text fuel next) := by
  induction fuel generalizing bound next with
  | zero =>
      cases next with
      | none => exact .none
      | some m =>
          have hm := hbound m rfl
          omega
  | succ fuel ih =>
      cases next with
      | none => exact .none
      | some m =>
          have hm := hbound m rfl
          have hafter : ∀ other, re.nextMatch? text (Spans.whole m).stop = some other →
              bound + 1 ≤ (Spans.whole other).stop ∧ (Spans.whole other).stop ≤ text.length := by
            intro other hother
            have hwhole := hcompiled.whole_of_nextMatch? hother
            omega
          exact .cons (ih hafter (by omega))

theorem successive_allMatches (text : List Char) :
    re.Successive text (re.matchFrom? text 0) (re.allMatches text) := by
  have hfirst : ∀ m, re.matchFrom? text 0 = some m →
      0 ≤ (Spans.whole m).stop ∧ (Spans.whole m).stop ≤ text.length :=
    fun m hm => ⟨Nat.zero_le _, (hcompiled.whole_of_matchFrom? hm).2.2⟩
  exact hcompiled.successive_matchesBehind hfirst (by omega)

end Compiled

end Regex

namespace Locate

open Regex

variable {re : Regex} {text : List Char} {cursor : Nat}

/-- What it is to pick the last of some matches that hold a cursor. -/
structure PicksLast (text : List Char) (re : Regex) (cursor : Nat) (ms : List Spans) : Prop where
  /-- No match starts in front of where one before it ends, and each ends further right. -/
  ordered : ms.Pairwise Spans.Before
  eq_getLast? : enclosing? text re cursor = (ms.filter fun m => m.Covers cursor).getLast?.map
    fun m => ⟨.ofSpans re text m, Spans.whole m⟩
  eq_none_iff : enclosing? text re cursor = none ↔ ∀ m ∈ ms, ¬ m.Covers cursor
  /-- What is picked holds the cursor, and between its ends stands the matched text. -/
  placed : ∀ found, enclosing? text re cursor = some found →
    found.span.start ≤ cursor ∧ cursor ≤ found.span.stop ∧ found.span.stop ≤ text.length ∧
      (text.drop found.span.start).take (found.span.stop - found.span.start) =
        found.captured.matched.toList

theorem covering_eq_filter (text : List Char) (re : Regex) (cursor : Nat) :
    covering text re cursor = (re.allMatches text).filter fun m => m.Covers cursor := by
  refine List.filter_congr fun m _ => ?_
  rw [Bool.eq_iff_iff, Bool.and_eq_true, decide_eq_true_eq, decide_eq_true_eq, decide_eq_true_eq,
    Spans.Covers]

theorem whole_of_finds (hcompiled : re.Compiled) {m : Spans} (hfinds : re.Finds text m) :
    (Spans.whole m).stop ≤ text.length := by
  cases hfinds with
  | first hfirst => exact (hcompiled.whole_of_matchFrom? hfirst).2.2
  | next _ hnext => exact (hcompiled.whole_of_nextMatch? hnext).2.2

theorem picksLast_allMatches (hcompiled : re.Compiled) (text : List Char) (cursor : Nat) :
    PicksLast text re cursor (re.allMatches text) where
  ordered := hcompiled.pairwise_matchesBehind _ _
  eq_getLast? := by rw [enclosing?_eq_getLast? hcompiled, covering_eq_filter]
  eq_none_iff := by
    rw [enclosing?_eq_getLast? hcompiled, covering_eq_filter, Option.map_eq_none_iff,
      List.getLast?_eq_none_iff, List.filter_eq_nil_iff]
    simp only [decide_eq_true_eq]
  placed found hfound := by
    obtain ⟨m, hlast, rfl⟩ := (enclosing?_eq_some_iff hcompiled).mp hfound
    refine ⟨hlast.covers.1, hlast.covers.2, whole_of_finds hcompiled hlast.finds, ?_⟩
    rw [Captured.matched_ofSpans, Span.slice]

/-- The match around a cursor is the last one that holds it of all successive matches. -/
theorem exists_picksLast (hcompiled : re.Compiled) (text : List Char) (cursor : Nat) :
    ∃ ms, re.Successive text (re.matchFrom? text 0) ms ∧
      (∀ other, re.Successive text (re.matchFrom? text 0) other → other = ms) ∧
      PicksLast text re cursor ms := by
  have hall := hcompiled.successive_allMatches text
  exact ⟨_, hall, fun other => hall.unique, picksLast_allMatches hcompiled text cursor⟩

end Locate

namespace CoveringWitness

def eitherLetter : Regex :=
  ⟨"a|b", #[.save 0, .split 2 4, .set (.bands [⟨97, 97, 1⟩]), .jump 5, .set (.bands [⟨98, 98, 1⟩]),
    .save 1, .accept], [none]⟩

def text : List Char := ['é', 'a', 'b', 'a']

theorem compiled : eitherLetter.Compiled := ⟨"a|b", by cbv⟩

theorem allMatches_text :
    eitherLetter.allMatches text = [[some ⟨1, 2⟩], [some ⟨2, 3⟩], [some ⟨3, 4⟩]] := by cbv

/-- Where two matches touch, a cursor between them is held by both, and the second one is picked. -/
theorem picksLast_between :
    eitherLetter.Compiled ∧
      Locate.enclosing? text eitherLetter 2 = some ⟨⟨[some "b"], eitherLetter⟩, ⟨2, 3⟩⟩ := by
  obtain ⟨ms, _, hunique, hpicks⟩ := Locate.exists_picksLast compiled text 2
  have hms := hunique _ (compiled.successive_allMatches text)
  refine ⟨compiled, ?_⟩
  rw [hpicks.eq_getLast?, ← hms, allMatches_text]
  rfl

end CoveringWitness

end QuickFix
