import Mathlib
import QuickFix.Locate.Basic
import QuickFix.Proofs.Match

/-!
What a chase of patterns finds: the hit of each pattern, from the end of the hit before on, as long
as no stop pattern matches on a line that was looked through in vain between two hits.
-/

namespace QuickFix

namespace Document

/-- The column from which a line is looked through behind a cursor: that of the cursor on its own
line, and the start of all other lines. -/
def columnFrom (cursor : Position) (line : Nat) : Nat :=
  if line = cursor.line then cursor.column else 0

/-- The match of a pattern on a line, as far as the line is looked through. What stands in front
of that part is seen by assertions. -/
def matchOn? (d : Document) (re : Regex) (cursor : Position) (line : Nat) : Option Located :=
  (d.line? line).bind fun text =>
    (re.matchFrom? text (columnFrom cursor line)).map fun spans =>
      ⟨.ofSpans re text spans, line, Regex.Spans.whole spans⟩

/-- Whether a pattern matches on no line from a cursor up to another line. -/
def InVain (d : Document) (re : Regex) (cursor : Position) (last : Nat) : Prop :=
  ∀ line, cursor.line ≤ line → line < last → d.matchOn? re cursor line = none

/-- Whether a match is the hit of a pattern from a cursor on: the match on the line of the cursor,
or else on the first line behind it that has one. -/
structure IsHit (d : Document) (re : Regex) (cursor : Position) (m : Located) : Prop where
  reached : cursor.line ≤ m.line
  found : d.matchOn? re cursor m.line = some m
  vain : d.InVain re cursor m.line

/-- Whether a stop pattern matches on none of the lines that are looked through in vain on the way
from a cursor to a hit. -/
def IsClear (d : Document) (stop : Option Regex) (cursor : Position) (m : Located) : Prop :=
  ∀ s, stop = some s → d.InVain s cursor m.line

/-- Whether matches are the hits of some patterns, the first one from a cursor on and each other one
from the end of the hit before it. -/
inductive AreHits (d : Document) : Position → List Regex → List Located → Prop
  | nil (cursor : Position) : d.AreHits cursor [] []
  | cons {cursor : Position} {re : Regex} {rest : List Regex} {m : Located} {more : List Located}
      (hit : d.IsHit re cursor m) (hits : d.AreHits m.range.stop rest more) :
      d.AreHits cursor (re :: rest) (m :: more)

/-- Whether the way from each hit to the next one is clear of a stop pattern. -/
def AreClear (d : Document) (stop : Option Regex) (hits : List Located) : Prop :=
  hits.IsChain fun before next => d.IsClear stop before.range.stop next

section

variable {d : Document} {cursor : Position} {re : Regex} {stop : Option Regex} {m : Located}

theorem matchOn?_cursor (re : Regex) {text : List Char}
    (htext : d.line? cursor.line = some text) :
    d.matchOn? re cursor cursor.line =
      (re.matchFrom? text cursor.column).map fun spans =>
        ⟨.ofSpans re text spans, cursor.line, Regex.Spans.whole spans⟩ := by
  rw [matchOn?, htext, columnFrom, if_pos rfl]
  rfl

/-- A line behind the cursor is looked through from its start. -/
theorem matchOn?_of_lt {line : Nat} (hline : cursor.line < line) :
    d.matchOn? re ⟨cursor.line + 1, 0⟩ line = d.matchOn? re cursor line := by
  have hzero : columnFrom cursor line = 0 := if_neg (Nat.ne_of_gt hline)
  have hstart : columnFrom ⟨cursor.line + 1, 0⟩ line = 0 := ite_self 0
  rw [matchOn?, matchOn?, hzero, hstart]

theorem matchOn?_eq_some {line : Nat} (hfound : d.matchOn? re cursor line = some m) :
    ∃ text spans, d.line? line = some text ∧
      re.matchFrom? text (columnFrom cursor line) = some spans ∧ m.line = line ∧
        m.span = Regex.Spans.whole spans := by
  obtain ⟨text, htext, hmatch⟩ := Option.bind_eq_some_iff.mp hfound
  obtain ⟨spans, hspans, rfl⟩ := Option.map_eq_some_iff.mp hmatch
  exact ⟨text, spans, htext, hspans, rfl, rfl⟩

theorem inVain_iff {last : Nat} (hnone : d.matchOn? re cursor cursor.line = none) :
    d.InVain re cursor last ↔ d.InVain re ⟨cursor.line + 1, 0⟩ last := by
  constructor
  · intro hvain line hle hlt
    rw [matchOn?_of_lt hle]
    exact hvain line (Nat.le_of_succ_le hle) hlt
  · intro hvain line hle hlt
    rcases Nat.eq_or_lt_of_le hle with rfl | hgt
    · exact hnone
    · rw [← matchOn?_of_lt hgt]
      exact hvain line hgt hlt

theorem isClear_none : d.IsClear none cursor m := nofun

theorem isHit_iff_of_found {hit : Located} (hfound : d.matchOn? re cursor cursor.line = some hit) :
    d.IsHit re cursor m ↔ hit = m := by
  constructor
  · intro hhit
    rcases Nat.lt_or_eq_of_le hhit.reached with hlt | heq
    · have hvain := hhit.vain cursor.line (Nat.le_refl _) hlt
      rw [hfound] at hvain
      cases hvain
    · have hm := hhit.found
      rw [← heq, hfound] at hm
      exact Option.some.inj hm
  · rintro rfl
    obtain ⟨_, _, _, _, hline, _⟩ := matchOn?_eq_some hfound
    refine ⟨Nat.le_of_eq hline.symm, by rwa [hline], fun line hle hlt => ?_⟩
    omega

/-- Where there is no match on the line of the cursor, the hit is the one from the next line on. -/
theorem isHit_iff_of_vain (hnone : d.matchOn? re cursor cursor.line = none) :
    d.IsHit re cursor m ↔ d.IsHit re ⟨cursor.line + 1, 0⟩ m := by
  constructor
  · intro hhit
    have hlt : cursor.line < m.line := by
      refine Nat.lt_of_le_of_ne hhit.reached fun heq => ?_
      have hfound := hhit.found
      rw [← heq, hnone] at hfound
      cases hfound
    exact ⟨hlt, (matchOn?_of_lt hlt).trans hhit.found, (inVain_iff hnone).mp hhit.vain⟩
  · intro hhit
    exact ⟨Nat.le_of_succ_le hhit.reached, (matchOn?_of_lt hhit.reached).symm.trans hhit.found,
      (inVain_iff hnone).mpr hhit.vain⟩

/-- A hit starts behind the cursor, and does not end in front of its start. -/
theorem IsHit.le (hhit : d.IsHit re cursor m) (hcompiled : re.Compiled) :
    cursor ≤ m.range.start ∧ m.range.start ≤ m.range.stop := by
  obtain ⟨text, spans, _, hspans, _, hspan⟩ := matchOn?_eq_some hhit.found
  obtain ⟨hstart, hle, _⟩ := hcompiled.whole_of_matchFrom? hspans
  rw [← hspan] at hstart hle
  refine ⟨Position.le_def.mpr ?_, .inr ⟨rfl, hle⟩⟩
  rcases Nat.lt_or_eq_of_le hhit.reached with hlt | heq
  · exact .inl hlt
  · rw [columnFrom, if_pos heq.symm] at hstart
    exact .inr ⟨heq, hstart⟩

/-- Whether the column of a cursor lies in its line, if there is such a line. -/
def Reaches (d : Document) (cursor : Position) : Prop :=
  ∀ text, d.line? cursor.line = some text → cursor.column ≤ text.length

theorem reaches_lineStart (d : Document) (line : Nat) : d.Reaches ⟨line, 0⟩ :=
  fun text _ => Nat.zero_le text.length

theorem IsHit.reaches (hhit : d.IsHit re cursor m) (hcompiled : re.Compiled) :
    d.Reaches m.range.stop := by
  intro text htext
  obtain ⟨text', spans, htext', hspans, _, hspan⟩ := matchOn?_eq_some hhit.found
  obtain rfl := Option.some.inj (htext.symm.trans htext')
  obtain ⟨_, _, hstop⟩ := hcompiled.whole_of_matchFrom? hspans
  rwa [← hspan] at hstop

end

end Document

namespace Locate

open Document

variable {d : Document} {stop : Option Regex}

theorem line?_of_drop_eq_cons {line : Nat} {text : List Char} {rest : List (List Char)}
    (hlines : (Text.lines d.chars).drop line = text :: rest) :
    d.line? line = some text ∧ (Text.lines d.chars).drop (line + 1) = rest := by
  constructor
  · rw [Document.line?, Text.line?, ← Nat.add_zero line, ← List.getElem?_drop, hlines]
    rfl
  · rw [← List.drop_drop, hlines]
    rfl

/-- Seeking finds the hit from a cursor on, unless a stop pattern matches on the way. -/
theorem seek_eq_some_iff (re : Regex) (stop : Option Regex) {cursor : Position}
    (hreaches : d.Reaches cursor) (m : Located) :
    seek re stop cursor.line cursor.column ((Text.lines d.chars).drop cursor.line) = some m ↔
      d.IsHit re cursor m ∧ d.IsClear stop cursor m := by
  generalize hlines : (Text.lines d.chars).drop cursor.line = lines
  induction lines generalizing cursor with
  | nil =>
      simp only [seek, reduceCtorEq, false_iff]
      rintro ⟨hhit, _⟩
      obtain ⟨text, _, htext, _⟩ := matchOn?_eq_some hhit.found
      have hlength := (List.getElem?_eq_some_iff.mp htext).1
      have hreached := hhit.reached
      rw [List.drop_eq_nil_iff] at hlines
      omega
  | cons text rest ih =>
      obtain ⟨htext, hrest⟩ := line?_of_drop_eq_cons hlines
      have hon := fun r : Regex => matchOn?_cursor r htext
      rw [seek, Nat.min_eq_left (hreaches text htext)]
      cases hmatch : re.matchFrom? text cursor.column with
      | some spans =>
          have hfound := hon re
          rw [hmatch, Option.map_some] at hfound
          rw [isHit_iff_of_found hfound, Option.some.injEq]
          constructor
          · rintro rfl
            exact ⟨rfl, fun s hs line hle hlt => absurd hlt (Nat.not_lt.mpr hle)⟩
          · exact fun hhit => hhit.1
      | none =>
          have hnone := hon re
          rw [hmatch, Option.map_none] at hnone
          rw [isHit_iff_of_vain hnone]
          have hnext := ih (d.reaches_lineStart (cursor.line + 1)) hrest
          by_cases hstop : ∃ s, stop = some s ∧ (s.matchFrom? text cursor.column).isSome
          · rw [if_pos (by simpa [Option.any_eq_true] using hstop)]
            obtain ⟨s, rfl, hs⟩ := hstop
            simp only [reduceCtorEq, false_iff]
            rintro ⟨hhit, hclear⟩
            have hvain := hclear s rfl cursor.line (Nat.le_refl _) hhit.reached
            rw [hon s, Option.map_eq_none_iff] at hvain
            simp [hvain] at hs
          · rw [if_neg (by simpa [Option.any_eq_true] using hstop), hnext]
            refine and_congr_right fun _ => forall_congr' fun s => forall_congr' fun hs => ?_
            refine (inVain_iff ?_).symm
            rw [hon s, Option.map_eq_none_iff]
            by_contra hsome
            exact hstop ⟨s, hs, Option.isSome_iff_ne_none.mpr hsome⟩

/-- Going on from a match finds the last of the hits behind it, if the way between all of them is
clear. -/
theorem chaseOn_eq_some_iff {patterns : List Regex} (hcompiled : ∀ re ∈ patterns, re.Compiled)
    {found : Located} (hreaches : d.Reaches found.range.stop) {m : Located} :
    chaseOn (Text.lines d.chars) stop found patterns = some m ↔
      ∃ more, d.AreHits found.range.stop patterns more ∧ d.AreClear stop (found :: more) ∧
        (found :: more).getLast? = some m := by
  induction patterns generalizing found with
  | nil =>
      simp only [chaseOn, Option.some.injEq]
      constructor
      · rintro rfl
        exact ⟨[], .nil _, List.isChain_singleton found, rfl⟩
      · rintro ⟨more, hhits, _, hlast⟩
        cases hhits
        exact Option.some.inj hlast
  | cons re rest ih =>
      have hre := hcompiled re List.mem_cons_self
      have hseek := seek_eq_some_iff re stop hreaches
      constructor
      · intro hchase
        rw [chaseOn] at hchase
        split at hchase
        · rename_i next hnext
          obtain ⟨hhit, hclear⟩ := (hseek next).mp hnext
          obtain ⟨more, hhits, hmore, hlast⟩ :=
            (ih (fun r hr => hcompiled r (List.mem_cons_of_mem re hr)) (hhit.reaches hre)).mp hchase
          exact ⟨next :: more, .cons hhit hhits, List.isChain_cons_cons.mpr ⟨hclear, hmore⟩, hlast⟩
        · cases hchase
      · rintro ⟨more, hhits, hclear, hlast⟩
        cases hhits with
        | cons hhit hhits =>
            rename_i next more
            obtain ⟨hnext, hmore⟩ := List.isChain_cons_cons.mp hclear
            have hfound := (hseek next).mpr ⟨hhit, hnext⟩
            simp only [Located.range] at hfound
            rw [chaseOn, hfound]
            exact (ih (fun r hr => hcompiled r (List.mem_cons_of_mem re hr)) (hhit.reaches hre)).mpr
              ⟨more, hhits, hmore, hlast⟩

end Locate

namespace Document

variable {d : Document} {cursor : Position} {patterns : List Regex} {hits : List Located}

theorem IsHit.unique {re : Regex} {m m' : Located} (hm : d.IsHit re cursor m)
    (hm' : d.IsHit re cursor m') : m = m' := by
  rcases Nat.lt_trichotomy m.line m'.line with hlt | heq | hgt
  · exact nomatch (hm'.vain m.line hm.reached hlt).symm.trans hm.found
  · have hfound := hm.found
    rw [heq, hm'.found] at hfound
    exact (Option.some.inj hfound).symm
  · exact nomatch (hm.vain m'.line hm'.reached hgt).symm.trans hm'.found

theorem AreHits.unique (hhits : d.AreHits cursor patterns hits) {hits' : List Located}
    (hhits' : d.AreHits cursor patterns hits') : hits = hits' := by
  induction hhits generalizing hits' with
  | nil cursor =>
      cases hhits'
      rfl
  | cons hit hrest ih =>
      cases hhits' with
      | cons hit' hrest' =>
          obtain rfl := hit.unique hit'
          rw [ih hrest']

theorem AreHits.length_eq (hhits : d.AreHits cursor patterns hits) :
    hits.length = patterns.length := by
  induction hhits with
  | nil cursor => rfl
  | cons hit hrest ih => rw [List.length_cons, List.length_cons, ih]

theorem AreHits.exists_isHit (hhits : d.AreHits cursor patterns hits) {m : Located}
    (hm : m ∈ hits) : ∃ re ∈ patterns, ∃ start, d.IsHit re start m := by
  induction hhits with
  | nil cursor => cases hm
  | cons hit hrest ih =>
      rcases List.mem_cons.mp hm with rfl | hmore
      · exact ⟨_, List.mem_cons_self, _, hit⟩
      · obtain ⟨re, hre, start, hhit⟩ := ih hmore
        exact ⟨re, List.mem_cons_of_mem _ hre, start, hhit⟩

/-- No hit starts in front of where the one before it ends. -/
theorem AreHits.isChain (hhits : d.AreHits cursor patterns hits)
    (hcompiled : ∀ re ∈ patterns, re.Compiled) :
    hits.IsChain fun before next => before.range.stop ≤ next.range.start := by
  induction hhits with
  | nil cursor => exact List.isChain_nil
  | cons hit hrest ih =>
      have hmore := ih fun re hre => hcompiled re (List.mem_cons_of_mem _ hre)
      cases hrest with
      | nil cursor => exact List.isChain_singleton _
      | cons next hrest =>
          refine List.isChain_cons_cons.mpr ⟨(next.le (hcompiled _ ?_)).1, hmore⟩
          exact List.mem_cons_of_mem _ List.mem_cons_self

theorem areClear_none (hits : List Located) : d.AreClear none hits := by
  induction hits with
  | nil => exact List.isChain_nil
  | cons m more ih => exact List.IsChain.cons ih fun next _ => isClear_none

theorem locate?_eq_some_iff (hcompiled : ∀ re ∈ patterns, re.Compiled) {stop : Option Regex}
    {m : Located} :
    d.locate? patterns stop = some m ↔
      ∃ hits, d.AreHits ⟨0, 0⟩ patterns hits ∧ d.AreClear stop hits ∧ hits.getLast? = some m := by
  cases patterns with
  | nil =>
      simp only [locate?, Locate.chase, reduceCtorEq, false_iff]
      rintro ⟨hits, hhits, _, hlast⟩
      cases hhits
      cases hlast
  | cons re rest =>
      have hre := hcompiled re List.mem_cons_self
      have hrest := fun r hr => hcompiled r (List.mem_cons_of_mem re hr)
      have hseek : ∀ first, Locate.seek re none 0 0 (Text.lines d.chars) = some first ↔
          d.IsHit re ⟨0, 0⟩ first := by
        intro first
        have hfirst := Locate.seek_eq_some_iff re none (d.reaches_lineStart 0) first
        rw [List.drop_zero] at hfirst
        rw [hfirst]
        exact and_iff_left isClear_none
      rw [locate?, Locate.chase]
      constructor
      · intro hchase
        split at hchase
        · rename_i first hfirst
          have hhit := (hseek first).mp hfirst
          obtain ⟨more, hhits, hclear, hlast⟩ :=
            (Locate.chaseOn_eq_some_iff hrest (hhit.reaches hre)).mp hchase
          exact ⟨first :: more, .cons hhit hhits, hclear, hlast⟩
        · cases hchase
      · rintro ⟨hits, hhits, hclear, hlast⟩
        cases hhits with
        | cons hhit hhits =>
            rename_i first more
            rw [(hseek first).mpr hhit]
            exact (Locate.chaseOn_eq_some_iff hrest (hhit.reaches hre)).mpr
              ⟨more, hhits, hclear, hlast⟩

/-- What it is for a chase to look for patterns in turn. -/
structure ChasesInTurn (d : Document) (patterns : List Regex) (stop : Option Regex) : Prop where
  /-- There is at most one hit for each pattern. -/
  unique : ∀ hits hits', d.AreHits ⟨0, 0⟩ patterns hits → d.AreHits ⟨0, 0⟩ patterns hits' →
    hits = hits'
  /-- The match that is found is the last hit, if the way to it is clear. -/
  located_iff : ∀ m, d.locate? patterns stop = some m ↔
    ∃ hits, d.AreHits ⟨0, 0⟩ patterns hits ∧ d.AreClear stop hits ∧ hits.getLast? = some m
  /-- There is such a match if there are patterns and all of them have their hit. -/
  isSome_iff : (d.locate? patterns stop).isSome = true ↔
    patterns ≠ [] ∧ ∃ hits, d.AreHits ⟨0, 0⟩ patterns hits ∧ d.AreClear stop hits
  /-- No hit starts in front of where the one before it ends. -/
  forward : ∀ hits, d.AreHits ⟨0, 0⟩ patterns hits →
    hits.IsChain fun before next => before.range.stop ≤ next.range.start
  /-- A stop pattern does not change which match is found. -/
  unchanged : ∀ m, d.locate? patterns stop = some m → d.locate? patterns none = some m
  /-- A stop pattern does not matter to a single pattern. -/
  single : patterns.length = 1 → d.locate? patterns stop = d.locate? patterns none

/-- A chase finds the last of the hits of its patterns, each looked for from the end of the one
before, and fails if one of them is missing or if the stop pattern matches on the way from one to
the next. -/
theorem chasesInTurn_of_compiled (d : Document) (stop : Option Regex)
    (hcompiled : ∀ re ∈ patterns, re.Compiled) : d.ChasesInTurn patterns stop where
  unique _ _ hhits hhits' := hhits.unique hhits'
  located_iff _ := locate?_eq_some_iff hcompiled
  isSome_iff := by
    rw [Option.isSome_iff_exists]
    constructor
    · rintro ⟨m, hm⟩
      obtain ⟨hits, hhits, hclear, hlast⟩ := (locate?_eq_some_iff hcompiled).mp hm
      refine ⟨?_, hits, hhits, hclear⟩
      rintro rfl
      cases hhits
      cases hlast
    · rintro ⟨hpatterns, hits, hhits, hclear⟩
      have hne : hits ≠ [] := by
        rw [← List.length_pos_iff, hhits.length_eq]
        exact List.length_pos_iff.mpr hpatterns
      exact ⟨hits.getLast hne, (locate?_eq_some_iff hcompiled).mpr
        ⟨hits, hhits, hclear, List.getLast?_eq_some_getLast hne⟩⟩
  forward _ hhits := hhits.isChain hcompiled
  unchanged m hm := by
    obtain ⟨hits, hhits, _, hlast⟩ := (locate?_eq_some_iff hcompiled).mp hm
    exact (locate?_eq_some_iff hcompiled).mpr ⟨hits, hhits, areClear_none hits, hlast⟩
  single hlength := by
    obtain ⟨re, rfl⟩ := List.length_eq_one_iff.mp hlength
    rfl

end Document

namespace ChaseWitness

def document : Document := ⟨⟨"/a"⟩, "rust", 0, ['a', ' ', 'b', '\n', 'b', ' ', 'c', '\n', 'b']⟩

def hit (c : Char) (line : Nat) (text : List Char) (start : Nat) : Located :=
  ⟨.ofSpans (.letter c) text [some ⟨start, start + 1⟩], line, ⟨start, start + 1⟩⟩

def patterns : List Regex := [.letter 'a', .letter 'b', .letter 'b']

/-- The second line is reached behind what is left of the first one. -/
def hits : List Located :=
  [hit 'a' 0 ['a', ' ', 'b'] 0, hit 'b' 0 ['a', ' ', 'b'] 2, hit 'b' 1 ['b', ' ', 'c'] 0]

theorem compiled : ∀ re ∈ patterns, re.Compiled := by
  have ha : (Regex.letter 'a').Compiled := Regex.compiled_letter (by decide)
  have hb : (Regex.letter 'b').Compiled := Regex.compiled_letter (by decide)
  simp [patterns, ha, hb]

theorem inVain_of_first {re : Regex} {cursor : Position}
    (hnone : document.matchOn? re cursor 0 = none) : document.InVain re cursor 1 := by
  intro line _ hlt
  obtain rfl := Nat.lt_one_iff.mp hlt
  exact hnone

theorem areHits : document.AreHits ⟨0, 0⟩ patterns hits :=
  .cons ⟨Nat.zero_le _, by cbv, nofun⟩ <| .cons ⟨Nat.le_refl _, by cbv, nofun⟩ <|
    .cons ⟨Nat.zero_le _, by cbv, inVain_of_first (by cbv)⟩ <| .nil _

theorem areClear : document.AreClear (some (.letter 'c')) hits := by
  refine List.isChain_cons_cons.mpr ⟨nofun, List.isChain_cons_cons.mpr ⟨?_, ?_⟩⟩
  · rintro _ ⟨⟩
    exact inVain_of_first (by cbv)
  · exact List.isChain_singleton _

theorem chase_behind_line :
    (∀ re ∈ patterns, re.Compiled) ∧
      document.locate? patterns (some (.letter 'c')) = some (hit 'b' 1 ['b', ' ', 'c'] 0) ∧
      document.locate? patterns none = some (hit 'b' 1 ['b', ' ', 'c'] 0) := by
  have hchases := document.chasesInTurn_of_compiled (some (.letter 'c')) compiled
  have hlocated := (hchases.located_iff _).mpr ⟨hits, areHits, areClear, rfl⟩
  exact ⟨compiled, hlocated, hchases.unchanged _ hlocated⟩

end ChaseWitness

end QuickFix
