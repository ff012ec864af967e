import QuickFix.Proofs.Collision
import QuickFix.Proofs.PlainText
import QuickFix.Proofs.Reapplication

/-!
Replacements with rendered texts. What a replacement puts in place of a match is its rendered text,
read once as a replacement string. By then the values of the placeholders are a part of that text
like any other, so a token that stands in a value is read as well. Only where no token begins in the
rendered text does the replacement put it there as an insertion would.
-/

namespace QuickFix

namespace ReplacementPart

variable {groups : Nat} {names : List (Option String)} {cs : List Char}

/-- A text in which no token begins anywhere. -/
def Tokenless (groups : Nat) (names : List (Option String)) (cs : List Char) : Prop :=
  ∀ behind, behind <:+ cs → ∀ part, ¬ Begins groups names behind part

theorem tokenless_of_not_mem (hdollar : '$' ∉ cs) : Tokenless groups names cs := by
  intro behind hbehind part hbegins
  obtain ⟨rest, hrest⟩ := exists_spelling_eq_cons hbegins.isToken
  have hfirst : '$' ∈ part.spelling := by
    rw [hrest]
    exact List.mem_cons_self
  exact hdollar (hbehind.subset (hbegins.spelled.subset hfirst))

theorem reads_of_tokenless (hnone : Tokenless groups names cs) :
    Reads groups names cs (cs.map literal) := by
  induction cs with
  | nil => exact .nil
  | cons c rest ih =>
      apply Reads.literal (hnone _ (List.suffix_refl _))
      apply ih
      intro behind hbehind
      exact hnone behind (hbehind.trans (List.suffix_cons c rest))

theorem flatMap_value_literal (e : Expansion) (cs : List Char) :
    (cs.map literal).flatMap (value e) = cs := by
  rw [List.flatMap_map]
  exact List.flatMap_singleton' cs

end ReplacementPart

namespace Captured

open ReplacementPart

/-- Whether a replacement string is read as some parts in a match. -/
def ReadsAs (m : Captured) (replacement : String) (parts : List ReplacementPart) : Prop :=
  Reads m.pattern.groupCount m.pattern.names replacement.toList parts

/-- Whether no token of a match begins anywhere in a replacement string. -/
def Verbatim (m : Captured) (replacement : String) : Prop :=
  Tokenless m.pattern.groupCount m.pattern.names replacement.toList

/-- What the parts of a replacement string stand for in a match, one after the other. -/
def written (m : Captured) (spans : Regex.Spans) (parts : List ReplacementPart) : String :=
  String.ofList (parts.flatMap (value ⟨m.matched.toList, spans, m.pattern.names⟩))

variable {m : Captured} {spans : Regex.Spans} {replacement : String}

theorem substitute_of_readsAs (hagain : m.pattern.matchFrom? m.matched.toList 0 = some spans)
    (hzero : spans[0]? = some (some ⟨0, m.matched.toList.length⟩)) {parts : List ReplacementPart}
    (hparts : m.ReadsAs replacement parts) : m.substitute replacement = m.written spans parts := by
  rw [ReadsAs, ← Regex.length_of_matchFrom? hagain] at hparts
  exact substitute_of_whole hagain hzero hparts

theorem substitute_of_verbatim (hagain : m.pattern.matchFrom? m.matched.toList 0 = some spans)
    (hzero : spans[0]? = some (some ⟨0, m.matched.toList.length⟩))
    (hverbatim : m.Verbatim replacement) : m.substitute replacement = replacement := by
  rw [substitute_of_readsAs hagain hzero (reads_of_tokenless hverbatim), written,
    flatMap_value_literal, String.ofList_toList]

end Captured

namespace Renderer

open Template

variable {r : Renderer} {s : Segment}

/-- What a part stands for, if its value is there and no later pass reads it, has no dollar sign. -/
theorem dollar_not_mem_standsFor (hwell : s.WellFormed) (hclean : r.Clean s)
    (hvalue : s.pass? ≠ none → r.value? s ≠ none) : '$' ∉ r.standsFor s := by
  cases hpass : s.pass? with
  | none =>
      rw [standsFor_of_pass?_eq_none hpass]
      cases s with
      | literal cs => exact hwell.2
      | placeholder _ _ => cases hpass
      | file _ => cases hpass
  | some p =>
      obtain ⟨value, hsome⟩ := Option.ne_none_iff_exists'.mp (hvalue (by simp [hpass]))
      rw [standsFor, hsome, Option.getD_some]
      have hadmits := hclean p value hpass hsome
      cases p with
      | family f =>
          cases f with
          | lookup => exact hadmits
          | diagnostic | diagnosticLookup | cursor => exact hadmits.2
      | file _ => exact hadmits

end Renderer

namespace StepContext

open ReplacementPart (exists_reads tokenless_of_not_mem)
open Template

variable {ctx : StepContext} {d : Document} {step : EditStep} {m : Located}

/-- What it is for a replacement to read its rendered text once, and to put the result in place of a
match. -/
structure ReplacesByReading (ctx : StepContext) (d : Document) (step : EditStep) (m : Located)
    (spans : Regex.Spans) : Prop where
  /-- The text has one reading, whatever part of it comes from the values of placeholders, and what
  its parts stand for is put in place of the match. -/
  reading : ∃ parts, m.captured.ReadsAs (ctx.renderer.render step.text) parts ∧
    (∀ other, m.captured.ReadsAs (ctx.renderer.render step.text) other → other = parts) ∧
      ctx.take d step = .taken (some (.replace m.range (m.captured.written spans parts)))
  /-- Where no token begins, the text is put there as it is. -/
  verbatim : m.captured.Verbatim (ctx.renderer.render step.text) →
    ctx.take d step = .taken (some (.replace m.range (ctx.renderer.render step.text)))
  /-- That is the text an insertion from the same template puts in front of a line. -/
  inserted : ∀ (other : EditStep) anchor locate, other.text = step.text →
    other.operation = .insert anchor locate → ctx.holds d other.condition = false →
      d.holdsLiteral (ctx.renderer.render step.text) = false →
        ctx.take d other = .taken (some
          (insertion d (ctx.insertionLine d anchor locate) (ctx.renderer.render step.text)))
  /-- It is so if there is a dollar sign neither between the placeholders nor in their values. -/
  values : ∀ segments : List Segment,
    step.text = String.ofList (segments.flatMap Segment.spelling) →
      (∀ s ∈ segments, s.WellFormed ∧ ctx.renderer.Clean s) →
        (∀ s ∈ segments, s.pass? ≠ none → ctx.renderer.value? s ≠ none) →
          ctx.take d step = .taken (some
            (.replace m.range (String.ofList (segments.flatMap ctx.renderer.standsFor))))

theorem take_of_locate? {find : List String} {stop : Option String}
    (hreplace : step.operation = .replace find stop)
    (hcondition : ctx.holds d step.condition = false)
    (htext : ctx.renderer.render step.text ≠ "") (hfound : ctx.locate? d find stop = some m) :
    ctx.take d step = .taken (some
      (.replace m.range (m.captured.substitute (ctx.renderer.render step.text)))) := by
  simp only [take, hcondition, htext, hreplace, operate, hfound, Option.map_some,
    Bool.false_eq_true, if_false]

/-- A replacement reads its rendered text once. -/
theorem replacesByReading_of_locate? {find : List String} {stop : Option String}
    (hreplace : step.operation = .replace find stop)
    (hcondition : ctx.holds d step.condition = false)
    (htext : ctx.renderer.render step.text ≠ "") (hfound : ctx.locate? d find stop = some m)
    {spans : Regex.Spans}
    (hagain : m.captured.pattern.matchFrom? m.captured.matched.toList 0 = some spans)
    (hzero : spans[0]? = some (some ⟨0, m.captured.matched.toList.length⟩)) :
    ctx.ReplacesByReading d step m spans := by
  have htake := take_of_locate? hreplace hcondition htext hfound
  have hverbatim : m.captured.Verbatim (ctx.renderer.render step.text) →
      ctx.take d step = .taken (some (.replace m.range (ctx.renderer.render step.text))) := by
    intro hplain
    rw [htake, Captured.substitute_of_verbatim hagain hzero hplain]
  refine ⟨?_, hverbatim, ?_, ?_⟩
  · obtain ⟨parts, hparts⟩ := exists_reads m.captured.pattern.groupCount
      m.captured.pattern.names (ctx.renderer.render step.text).toList
    refine ⟨parts, hparts, fun other hother => hparts.unique hother, ?_⟩
    rw [htake, Captured.substitute_of_readsAs hagain hzero hparts]
  · intro other anchor locate hsame hinsert hopen habsent
    simp only [take, hopen, hsame, htext, hinsert, operate, habsent, Bool.false_eq_true, if_false]
  · intro segments hsegments hclean hvalues
    have hrender : ctx.renderer.render step.text =
        String.ofList (segments.flatMap ctx.renderer.standsFor) := by
      rw [hsegments, Renderer.render_eq, String.toList_ofList,
        Renderer.renderChars_segments hclean]
    rw [← hrender]
    apply hverbatim
    apply tokenless_of_not_mem
    rw [hrender, String.toList_ofList, List.mem_flatMap]
    rintro ⟨s, hs, hdollar⟩
    obtain ⟨hwell, hkept⟩ := hclean s hs
    exact Renderer.dollar_not_mem_standsFor hwell hkept (hvalues s hs) hdollar

end StepContext

namespace RenderedReplacementWitness

open Captured ReplacementPart

def document : Document := ⟨⟨"/a"⟩, "rust", 0, ['a', 'b', '\n']⟩

def source : DocumentSource :=
  ⟨some document, [document], DocumentSource.scan [document], fun _ => none⟩

/-- A table with one text, and nothing else to fill placeholders from. -/
def context (looked : String) : StepContext where
  renderer := ⟨⟨none, none⟩, ⟨[("k", looked)], []⟩, none⟩
  active := document
  source := source
  defaultFile := none

/-- A replacement by the text of the table. -/
def step : EditStep := .replace "(a)b" "\x7b\x7blookup:k\x7d\x7d"

def pattern : Regex :=
  ⟨"(a)b", #[.save 0, .save 2, .set (.bands [⟨97, 97, 1⟩]), .save 3,
    .set (.bands [⟨98, 98, 1⟩]), .save 1, .accept], [none, none]⟩

def spans : Regex.Spans := [some ⟨0, 2⟩, some ⟨0, 1⟩]

def found : Located := ⟨⟨[some "ab", some "a"], pattern⟩, 0, ⟨0, 2⟩⟩

theorem locate?_step (looked : String) :
    (context looked).locate? document ["(a)b"] none = some found := by
  cbv

theorem matchFrom?_found :
    found.captured.pattern.matchFrom? found.captured.matched.toList 0 = some spans := by
  cbv

theorem render_group : (context "$1").renderer.render step.text = "$1" := by
  cbv

theorem render_letter : (context "v").renderer.render step.text = "v" := by
  cbv

theorem readsAs_group : found.captured.ReadsAs "$1" [.oneDigit 1] := by
  have hbegins : Begins 2 [none, none] ((oneDigit 1).spelling ++ []) (.oneDigit 1) := by
    refine ⟨⟨by decide, by decide⟩, List.prefix_refl _, ?_⟩
    intro tens units _ _ hspelled
    exact absurd hspelled.length_le (by simp [spelling])
  exact .token hbegins .nil

/-- A text of the table that is a token is read as one, and any other is put in the place of the
match as it is. -/
theorem take_looked :
    (context "$1").take document step = .taken (some (.replace found.range "a")) ∧
      (context "v").take document step = .taken (some (.replace found.range "v")) := by
  constructor
  · have hreads : (context "$1").ReplacesByReading document step found spans :=
      StepContext.replacesByReading_of_locate? rfl rfl (by rw [render_group]; decide)
        (locate?_step "$1") matchFrom?_found rfl
    obtain ⟨parts, _, hunique, htake⟩ := hreads.reading
    rw [render_group] at hunique
    rw [htake, ← hunique _ readsAs_group]
    rfl
  · have hreads : (context "v").ReplacesByReading document step found spans :=
      StepContext.replacesByReading_of_locate? rfl rfl (by rw [render_letter]; decide)
        (locate?_step "v") matchFrom?_found rfl
    have htake := hreads.verbatim
    rw [render_letter] at htake
    exact htake (tokenless_of_not_mem (by decide))

/-- The template has no dollar sign, and still its rendered text is not what is put in the place of
the match. -/
theorem not_verbatim_looked :
    '$' ∉ step.text.toList ∧
      (context "$1").locate? document ["(a)b"] none = some found ∧
      found.captured.pattern.matchFrom? found.captured.matched.toList 0 = some spans ∧
      spans[0]? = some (some ⟨0, found.captured.matched.toList.length⟩) ∧
      (context "$1").take document step = .taken (some (.replace found.range "a")) ∧
      (context "$1").renderer.render step.text = "$1" := by
  have htake : (context "$1").take document step = .taken (some (.replace found.range
      (found.captured.substitute ((context "$1").renderer.render step.text)))) :=
    StepContext.take_of_locate? rfl rfl (by rw [render_group]; decide) (locate?_step "$1")
  have hgroup : found.captured.substitute "$1" = "a" := by cbv
  rw [render_group, hgroup] at htake
  exact ⟨by decide, locate?_step "$1", matchFrom?_found, rfl, htake, render_group⟩

end RenderedReplacementWitness

end QuickFix
