import Mathlib.Algebra.Group.Nat.Defs
import Mathlib.Data.List.Induction
import QuickFix.Template.Basic

/-!
Decimal numerals. An index is spelled by its decimal digits, perhaps with zeros in front of them and
with a plus sign in front of all. Reading takes exactly these spellings, up to a bound and with
blanks around them, and every index has them all.
-/

namespace QuickFix

/-- The spellings of a number: its digits, with any number of zeros and perhaps a plus sign in front.
-/
def Spells (n : Nat) (cs : List Char) : Prop :=
  ∃ zeros, cs = List.replicate zeros '0' ++ Nat.toDigits 10 n ∨
    cs = '+' :: (List.replicate zeros '0' ++ Nat.toDigits 10 n)

namespace Template

/-- Whether a character is a decimal digit. -/
def IsDecimal (c : Char) : Prop := '0' ≤ c ∧ c ≤ '9'

instance (c : Char) : Decidable (IsDecimal c) := inferInstanceAs (Decidable (_ ∧ _))

theorem isDecimal_iff {c : Char} : IsDecimal c ↔ 48 ≤ c.toNat ∧ c.toNat ≤ 57 := Iff.rfl

theorem isDecimal_of_isDigit {c : Char} (hc : c.isDigit = true) : IsDecimal c := by
  simpa [Char.isDigit, IsDecimal, Char.le_def] using hc

theorem isDecimal_of_mem_toDigits {n : Nat} {c : Char} (hc : c ∈ Nat.toDigits 10 n) :
    IsDecimal c :=
  isDecimal_of_isDigit (Nat.isDigit_of_mem_toDigits (by decide) (by decide) hc)

theorem toDigits_digit {c : Char} (hc : IsDecimal c) : Nat.toDigits 10 (c.toNat - 48) = [c] := by
  have hdigitChar : ∀ n < 10, Nat.digitChar n = Char.ofNat (48 + n) := by decide
  obtain ⟨hlow, hhigh⟩ := isDecimal_iff.mp hc
  have hlt : c.toNat - 48 < 10 := by omega
  rw [Nat.toDigits_of_lt_base hlt, hdigitChar _ hlt, Nat.add_sub_cancel' hlow, Char.ofNat_toNat]

/-- Digits are those of the number they stand for, behind zeros. -/
theorem exists_zeros {digits : List Char} (hne : digits ≠ [])
    (hdigits : ∀ c ∈ digits, IsDecimal c) : ∃ zeros, digits =
      List.replicate zeros '0' ++ Nat.toDigits 10 (Nat.ofDigitChars 10 digits 0) := by
  induction digits using List.reverseRecOn with
  | nil => exact absurd rfl hne
  | append_singleton front c ih =>
      have hc : IsDecimal c := hdigits c (by simp)
      have hvalue : Nat.ofDigitChars 10 (front ++ [c]) 0 =
          10 * Nat.ofDigitChars 10 front 0 + (c.toNat - 48) := by
        rw [Nat.ofDigitChars_append, Nat.ofDigitChars_cons, Nat.ofDigitChars_nil]
        rfl
      rw [hvalue]
      by_cases hfront : front = []
      · refine ⟨0, ?_⟩
        rw [hfront, Nat.ofDigitChars_nil, Nat.mul_zero, Nat.zero_add, toDigits_digit hc]
        rfl
      · obtain ⟨zeros, hzeros⟩ := ih hfront fun c' hc' => hdigits c' (by simp [hc'])
        generalize Nat.ofDigitChars 10 front 0 = n at hzeros
        rcases Nat.eq_zero_or_pos n with rfl | hpos
        · refine ⟨zeros + 1, ?_⟩
          rw [hzeros, Nat.toDigits_zero, Nat.mul_zero, Nat.zero_add, toDigits_digit hc,
            List.replicate_succ']
        · refine ⟨zeros, ?_⟩
          have hlt : c.toNat - 48 < 10 := by
            have hbounds := isDecimal_iff.mp hc
            omega
          rw [← Nat.toDigits_append_toDigits (by decide) hpos hlt, toDigits_digit hc, hzeros,
            List.append_assoc]

theorem ofDigitChars_zeros (zeros n : Nat) :
    Nat.ofDigitChars 10 (List.replicate zeros '0' ++ Nat.toDigits 10 n) 0 = n := by
  rw [Nat.ofDigitChars_append, Nat.ofDigitChars_replicate_zero, Nat.mul_zero,
    Nat.ofDigitChars_toDigits (by decide) (by decide)]

/-- The digits behind a plus sign, if there is one. -/
def unsigned (cs : List Char) : List Char :=
  match cs with
  | '+' :: rest => rest
  | _ => cs

theorem unsigned_of_ne {c : Char} (hc : c ≠ '+') (rest : List Char) :
    unsigned (c :: rest) = c :: rest := by
  unfold unsigned
  split
  · rename_i heq
    exact absurd (List.cons.inj heq).1 hc
  · rfl

theorem eq_unsigned_or (cs : List Char) : cs = unsigned cs ∨ cs = '+' :: unsigned cs := by
  unfold unsigned
  split
  · exact .inr rfl
  · exact .inl rfl

/-- A text spells a number if and only if it consists of digits that stand for it, but for a plus
sign in front. -/
theorem spells_iff {n : Nat} {cs : List Char} : Spells n cs ↔
    unsigned cs ≠ [] ∧ (∀ c ∈ unsigned cs, IsDecimal c) ∧
      Nat.ofDigitChars 10 (unsigned cs) 0 = n := by
  constructor
  · rintro ⟨zeros, hcs⟩
    have hdigits : ∀ c ∈ List.replicate zeros '0' ++ Nat.toDigits 10 n, IsDecimal c := by
      intro c hc
      rcases List.mem_append.mp hc with hzero | hdigit
      · exact List.eq_of_mem_replicate hzero ▸ (by decide)
      · exact isDecimal_of_mem_toDigits hdigit
    have hne : List.replicate zeros '0' ++ Nat.toDigits 10 n ≠ [] := by
      simp [Nat.toDigits_ne_nil]
    have hunsigned : unsigned cs = List.replicate zeros '0' ++ Nat.toDigits 10 n := by
      rcases hcs with rfl | rfl
      · obtain ⟨c, rest, heq⟩ := List.exists_cons_of_ne_nil hne
        have hc : c ≠ '+' := by
          rintro rfl
          exact absurd (hdigits '+' (heq ▸ List.mem_cons_self)) (by decide)
        rw [heq, unsigned_of_ne hc]
      · rfl
    rw [hunsigned]
    exact ⟨hne, hdigits, ofDigitChars_zeros zeros n⟩
  · rintro ⟨hne, hdigits, rfl⟩
    obtain ⟨zeros, hzeros⟩ := exists_zeros hne hdigits
    exact ⟨zeros, hzeros ▸ eq_unsigned_or cs⟩

theorem foldl_eq_ofDigitChars (digits : List Char) :
    digits.foldl (fun n c => n * 10 + (c.toNat - 48)) 0 = Nat.ofDigitChars 10 digits 0 := by
  rw [Nat.ofDigitChars_eq_foldl]
  congr 1
  funext n c
  rw [Nat.mul_comm]
  rfl

/-- An argument is read as a number if and only if it spells it, blanks aside, and the number is
small enough. -/
theorem index?_eq_some_iff {argument : List Char} {n : Nat} :
    index? argument = some n ↔ n < 2 ^ 64 ∧ Spells n (Text.trim argument) := by
  have hopen : index? argument =
      if (!(unsigned (Text.trim argument)).isEmpty &&
          (unsigned (Text.trim argument)).all fun c => '0' ≤ c && c ≤ '9') &&
        (unsigned (Text.trim argument)).foldl (fun n c => n * 10 + (c.toNat - 48)) 0 <
          0x10000000000000000 then
        some ((unsigned (Text.trim argument)).foldl (fun n c => n * 10 + (c.toNat - 48)) 0)
      else none := rfl
  rw [hopen, foldl_eq_ofDigitChars, spells_iff, Option.ite_none_right_eq_some]
  simp only [Bool.and_eq_true, Bool.not_eq_true', List.isEmpty_eq_false_iff, List.all_eq_true,
    decide_eq_true_eq, Option.some.injEq, IsDecimal]
  constructor
  · rintro ⟨⟨⟨hne, hdigits⟩, hlt⟩, rfl⟩
    exact ⟨hlt, hne, hdigits, rfl⟩
  · rintro ⟨hlt, hne, hdigits, rfl⟩
    exact ⟨⟨⟨hne, hdigits⟩, hlt⟩, rfl⟩

end Template

end QuickFix
