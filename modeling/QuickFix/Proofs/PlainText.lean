import QuickFix.Proofs.Rendering

/-!
Texts that no pass reads. Whatever a pass reads begins with two characters of its own, so it leaves
a text without them as it is. In particular a text that opens neither a placeholder nor a variable
comes through all passes unchanged, and rendering is the same whether it skips the passes for such a
text or not.
-/

namespace QuickFix

namespace Text

variable {token? : TokenReader}

theorem rewrite_nil (token? : TokenReader) : rewrite token? [] = [] := rfl

/-- A pass keeps a text if it reads nothing from any place in it on. -/
theorem rewrite_append_of_none {cs : List Char} (rest : List Char)
    (hnone : ∀ behind, behind <:+ cs → behind ≠ [] → token? (behind ++ rest) = none) :
    rewrite token? (cs ++ rest) = cs ++ rewrite token? rest := by
  induction cs with
  | nil => rfl
  | cons c cs ih =>
      have hfirst : token? (c :: (cs ++ rest)) = none :=
        hnone (c :: cs) (List.suffix_refl _) (List.cons_ne_nil _ _)
      have hbehind : ∀ behind, behind <:+ cs → behind ≠ [] → token? (behind ++ rest) = none := by
        intro behind hsuffix
        exact hnone behind (hsuffix.trans (List.suffix_cons c cs))
      rw [List.cons_append, rewrite_cons_of_none token? hfirst, ih hbehind, List.cons_append]

theorem rewrite_of_none {cs : List Char}
    (hnone : ∀ behind, behind <:+ cs → behind ≠ [] → token? behind = none) :
    rewrite token? cs = cs := by
  have hkept := rewrite_append_of_none [] (by simpa using hnone)
  rwa [List.append_nil, rewrite_nil, List.append_nil] at hkept

theorem rewrite_eq_of_append {cs value : List Char}
    (happend : ∀ rest, rewrite token? (cs ++ rest) = value ++ rewrite token? rest) :
    rewrite token? cs = value := by
  have hempty := happend []
  rwa [List.append_nil, rewrite_nil, List.append_nil] at hempty

theorem Keeps.rewrite_eq {cs : List Char} (hkeeps : Keeps token? cs) : rewrite token? cs = cs :=
  rewrite_eq_of_append hkeeps

/-- A pass keeps a text in which what it reads never begins. -/
theorem OpensWith.rewrite_of_not_occurs {first : Char} (hopens : OpensWith token? first)
    {cs : List Char} (hfirst : ¬ [first, '\x7b'] <:+: cs) : rewrite token? cs = cs := by
  apply rewrite_of_none
  intro behind hbehind _
  by_contra hread
  obtain ⟨rest, rfl⟩ := hopens behind hread
  exact hfirst ((List.prefix_append [first, '\x7b'] rest).isInfix.trans hbehind.isInfix)

end Text

namespace Renderer

open Template

variable {r : Renderer} {text : List Char}

theorem fillAt_of_not_occurs {p : Pass} (hfirst : ¬ [p.first, '\x7b'] <:+: text) :
    r.fillAt text p = text := by
  unfold fillAt
  split
  · rename_i token? hreader
    exact (opensWith_of_reader? hreader).rewrite_of_not_occurs hfirst
  · rfl

theorem foldl_fillAt_of_not_occurs {passes : List Pass}
    (hfirst : ∀ p ∈ passes, ¬ [p.first, '\x7b'] <:+: text) : passes.foldl r.fillAt text = text := by
  induction passes with
  | nil => rfl
  | cons p rest ih =>
      obtain ⟨hp, hrest⟩ := List.forall_mem_cons.mp hfirst
      rw [List.foldl_cons, fillAt_of_not_occurs hp, ih hrest]

/-- No pass changes a text that opens neither a placeholder nor a variable. -/
theorem renderChars_of_not_templated {text : String} (hplain : ¬ Templated text) :
    r.renderChars text.toList = text.toList := by
  rw [renderChars_eq_foldl]
  apply foldl_fillAt_of_not_occurs
  intro p _ hinfix
  cases p with
  | family f => exact hplain (.inl hinfix)
  | file v => exact hplain (.inr hinfix)

/-- A template is rendered by the passes, whether they are skipped for a plain text or not. -/
theorem render_eq (r : Renderer) (text : String) :
    r.render text = String.ofList (r.renderChars text.toList) := by
  by_cases htemplated : Templated text
  · rw [render, if_pos (hasPlaceholders_iff.mpr htemplated)]
  · rw [render_of_not_templated r htemplated, renderChars_of_not_templated htemplated,
      String.ofList_toList]

/-- The passes put the own value of each part in its place. -/
theorem renderChars_segments {segments : List Segment}
    (hsegments : ∀ s ∈ segments, s.WellFormed ∧ r.Clean s) :
    r.renderChars (segments.flatMap Segment.spelling) = segments.flatMap r.standsFor := by
  rw [renderChars_eq_foldl, ← written_nil, foldl_fillAt_written hsegments (List.nil_append _),
    written_all]

end Renderer

end QuickFix
