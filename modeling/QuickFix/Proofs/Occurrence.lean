import QuickFix.Locate.Basic

/-!
Where a text occurs in another. The search finds a text exactly if it stands somewhere inside in one
piece.
-/

namespace QuickFix

namespace Text

theorem dropPrefix?_eq_some_iff {needle text rest : List Char} :
    dropPrefix? needle text = some rest ↔ text = needle ++ rest := by
  induction needle generalizing text with
  | nil => simp [dropPrefix?]
  | cons n ns ih =>
      cases text with
      | nil => simp [dropPrefix?]
      | cons c cs =>
          by_cases hc : n = c
          · simp [dropPrefix?, hc, ih]
          · simp [dropPrefix?, hc, Ne.symm hc]

theorem isSome_dropPrefix?_iff {needle text : List Char} :
    (dropPrefix? needle text).isSome = true ↔ needle <+: text := by
  rw [Option.isSome_iff_exists]
  constructor
  · rintro ⟨rest, hrest⟩
    exact ⟨rest, (dropPrefix?_eq_some_iff.mp hrest).symm⟩
  · rintro ⟨rest, hrest⟩
    exact ⟨rest, dropPrefix?_eq_some_iff.mpr hrest.symm⟩

/-- A text occurs in another exactly if it is a part of it in one piece. -/
theorem occurs_iff {needle text : List Char} : occurs needle text = true ↔ needle <:+: text := by
  induction text with
  | nil =>
      rw [List.infix_nil, ← List.prefix_nil, ← isSome_dropPrefix?_iff]
      simp [occurs, find?, splitFirst?]
  | cons c cs ih =>
      rw [List.infix_cons_iff, ← isSome_dropPrefix?_iff, ← ih]
      cases hprefix : dropPrefix? needle (c :: cs) <;>
        simp [occurs, find?, splitFirst?, hprefix]

/-- A text without a mark is what is read up to the mark. -/
theorem takeWhile_append_mark {mark : Char} {cs : List Char} (hcs : mark ∉ cs) (rest : List Char) :
    (cs ++ mark :: rest).takeWhile (· ≠ mark) = cs := by
  rw [List.takeWhile_append_of_pos]
  · simp
  · exact fun c hc => decide_eq_true fun heq => hcs (heq ▸ hc)

/-- Texts without a mark are the same if the mark stands behind both of them. -/
theorem eq_of_append_mark {mark : Char} {cs cs' rest rest' : List Char} (hcs : mark ∉ cs)
    (hcs' : mark ∉ cs') (heq : cs ++ mark :: rest = cs' ++ mark :: rest') : cs = cs' := by
  rw [← takeWhile_append_mark hcs rest, heq, takeWhile_append_mark hcs']

end Text

namespace Document

theorem holdsLiteral_iff (d : Document) (text : String) :
    d.holdsLiteral text = true ↔ needle text <:+: d.chars := Text.occurs_iff

theorem holdsLiteral_empty (d : Document) : d.holdsLiteral "" = true :=
  (d.holdsLiteral_iff "").mpr List.nil_infix

/-- A literal text is at hand as soon as all of it is, also its last line feed. -/
theorem holdsLiteral_of_part {d : Document} {text : String} (hpart : text.toList <:+: d.chars) :
    d.holdsLiteral text = true := by
  have hneedle : needle text <+: text.toList := by
    unfold needle Text.dropLastIf
    split
    · exact List.dropLast_prefix _
    · exact List.prefix_refl _
  exact (d.holdsLiteral_iff text).mpr (hneedle.isInfix.trans hpart)

end Document

end QuickFix
