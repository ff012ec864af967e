import QuickFix.Text.Find

/-!
One pass over a text that replaces tokens by values. The pass goes from left to right; where a token
starts its value is written and reading goes on behind the token, elsewhere the character is kept.
Values are never read again.
-/

namespace QuickFix.Text

/-- A reader of tokens: at the start of a text it finds the value of the token there and the number
of characters the token takes, or nothing. -/
abbrev TokenReader := List Char → Option (List Char × Nat)

/-- The pass while `skip` characters of the last token are still to be passed over. -/
def rewriteSkipping (token? : TokenReader) : Nat → List Char → List Char
  | _, [] => []
  | skip + 1, _ :: cs => rewriteSkipping token? skip cs
  | 0, c :: cs =>
    match token? (c :: cs) with
    | some (value, count) => value ++ rewriteSkipping token? (count - 1) cs
    | none => c :: rewriteSkipping token? 0 cs

def rewrite (token? : TokenReader) (text : List Char) : List Char := rewriteSkipping token? 0 text

/-- Reads one fixed text as a token. -/
def wordToken (word value : List Char) : TokenReader := fun cs =>
  (dropPrefix? word cs).map fun _ => (value, word.length)

def replaceAll (word value text : List Char) : List Char := rewrite (wordToken word value) text

theorem rewriteSkipping_append (token? : TokenReader) (passed rest : List Char) :
    rewriteSkipping token? passed.length (passed ++ rest) = rewrite token? rest := by
  induction passed with
  | nil => rfl
  | cons c cs ih => simpa [rewriteSkipping] using ih

/-- A token at the start is written as its value, and the pass goes on behind it. -/
theorem rewrite_token (token? : TokenReader) {token rest value : List Char} (hne : token ≠ [])
    (h : token? (token ++ rest) = some (value, token.length)) :
    rewrite token? (token ++ rest) = value ++ rewrite token? rest := by
  cases token with
  | nil => exact absurd rfl hne
  | cons c cs =>
    simp only [rewrite, List.cons_append, rewriteSkipping] at h ⊢
    rw [h]
    simp only [List.length_cons, Nat.add_sub_cancel]
    rw [rewriteSkipping_append, rewrite]

/-- A character at which no token starts is kept. -/
theorem rewrite_cons_of_none (token? : TokenReader) {c : Char} {cs : List Char}
    (h : token? (c :: cs) = none) : rewrite token? (c :: cs) = c :: rewrite token? cs := by
  simp [rewrite, rewriteSkipping, h]

end QuickFix.Text
