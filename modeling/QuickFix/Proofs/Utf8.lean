import QuickFix.Text.Utf8

/-!
Decoding undoes encoding. A character is written as a leading byte and up to three bytes with six
bits each. The decoder keeps the bits it has read; with `k` bytes to come, these are the bits of the
character above its last `6 * k`.
-/

namespace QuickFix.Text

/-- A byte that carries the last six bits of a number, behind the first byte of a character. -/
def trailing (n : Nat) : UInt8 := UInt8.ofNat (n % 64 + 128)

theorem toNat_trailing (n : Nat) : (trailing n).toNat = n % 64 + 128 := by
  rw [trailing, UInt8.toNat_ofNat']
  omega

theorem toNat_trailing_sub (n : Nat) : (trailing n).toNat - 0x80 = n % 64 := by
  rw [toNat_trailing]
  omega

theorem Unfinished.take_trailing (u : Unfinished) (n : Nat) :
    u.take (trailing n) = ⟨u.bits * 64 + n % 64, u.left - 1, 0x80, 0xBF⟩ :=
  congrArg (fun k => Unfinished.mk (u.bits * 64 + k) (u.left - 1) 0x80 0xBF) (toNat_trailing_sub n)

/-- The bounds hold for a trailing byte if they hold for its number. -/
theorem trailing_mem (lo hi : Nat) {n : Nat} (hlo : lo ≤ n % 64 + 128) (hhi : n % 64 + 128 ≤ hi)
    (hbyte : hi < 256) : UInt8.ofNat lo ≤ trailing n ∧ trailing n ≤ UInt8.ofNat hi := by
  simp only [UInt8.le_iff_toNat_le, toNat_trailing, UInt8.toNat_ofNat']
  omega

theorem trailing_mem_all (n : Nat) : (0x80 : UInt8) ≤ trailing n ∧ trailing n ≤ 0xBF :=
  trailing_mem 0x80 0xBF (by omega) (by omega) (by decide)

section Bytes

variable {v : Nat} {lo hi : UInt8} (rest : List UInt8)

theorem decodeFrom_of_one (h : lo ≤ trailing v ∧ trailing v ≤ hi) :
    decodeFrom (some ⟨v / 64, 1, lo, hi⟩) (trailing v :: rest) =
      Char.ofNat v :: decodeFrom none rest := by
  have hv : v / 64 * 64 + v % 64 = v := Nat.div_add_mod' v 64
  simp only [decodeFrom, Unfinished.take_trailing, hv]
  rw [if_pos h, if_pos trivial]

theorem decodeFrom_of_two (h : lo ≤ trailing (v / 64) ∧ trailing (v / 64) ≤ hi) :
    decodeFrom (some ⟨v / 4096, 2, lo, hi⟩) (trailing (v / 64) :: trailing v :: rest) =
      Char.ofNat v :: decodeFrom none rest := by
  have hv : v / 4096 * 64 + v / 64 % 64 = v / 64 := by omega
  rw [decodeFrom, if_pos h, if_neg (by simp), Unfinished.take_trailing]
  simp only [hv]
  exact decodeFrom_of_one rest (trailing_mem_all v)

theorem decodeFrom_of_three (h : lo ≤ trailing (v / 4096) ∧ trailing (v / 4096) ≤ hi) :
    decodeFrom (some ⟨v / 262144, 3, lo, hi⟩)
        (trailing (v / 4096) :: trailing (v / 64) :: trailing v :: rest) =
      Char.ofNat v :: decodeFrom none rest := by
  have hv : v / 262144 * 64 + v / 4096 % 64 = v / 4096 := by omega
  rw [decodeFrom, if_pos h, if_neg (by simp), Unfinished.take_trailing]
  simp only [hv]
  exact decodeFrom_of_two rest (trailing_mem_all (v / 64))

theorem decodeFrom_of_unfinished {b : UInt8} {u : Unfinished} (h : lead b = .unfinished u) :
    decodeFrom none (b :: rest) = decodeFrom (some u) rest := by
  simp [decodeFrom, begin, h]

/-- A character below `2 ^ 7`. -/
theorem decodeFrom_single (h : v < 0x80) :
    decodeFrom none (UInt8.ofNat v :: rest) = Char.ofNat v :: decodeFrom none rest := by
  have hbyte : (UInt8.ofNat v).toNat = v := by
    rw [UInt8.toNat_ofNat']
    omega
  have hlead : lead (UInt8.ofNat v) = .char (Char.ofNat v) := by
    simp only [lead, hbyte]
    rw [if_pos h]
  simp [decodeFrom, begin, hlead]

/-- A character from `2 ^ 7` to below `2 ^ 11`. -/
theorem decodeFrom_double (hlow : 0x80 ≤ v) (hhigh : v < 0x800) :
    decodeFrom none (UInt8.ofNat (v / 64 % 0x20 + 0xC0) :: trailing v :: rest) =
      Char.ofNat v :: decodeFrom none rest := by
  have hbyte : (UInt8.ofNat (v / 64 % 0x20 + 0xC0)).toNat = v / 64 + 0xC0 := by
    rw [UInt8.toNat_ofNat']
    omega
  have hlead : lead (UInt8.ofNat (v / 64 % 0x20 + 0xC0)) = .unfinished ⟨v / 64, 1, 0x80, 0xBF⟩ := by
    simp only [lead, hbyte]
    rw [if_neg (by omega), if_neg (by omega), if_pos (by omega), Nat.add_sub_cancel]
  rw [decodeFrom_of_unfinished _ hlead]
  exact decodeFrom_of_one rest (trailing_mem_all v)

/-- A character from `2 ^ 11` to below `2 ^ 16`, surrogates apart. Two leading bytes narrow the
bounds of the next one. -/
theorem decodeFrom_triple (hlow : 0x800 ≤ v) (hhigh : v < 0x10000)
    (hvalid : v < 0xD800 ∨ 0xDFFF < v) :
    decodeFrom none (UInt8.ofNat (v / 4096 % 0x10 + 0xE0) :: trailing (v / 64) :: trailing v ::
        rest) = Char.ofNat v :: decodeFrom none rest := by
  have hbyte : (UInt8.ofNat (v / 4096 % 0x10 + 0xE0)).toNat = v / 4096 + 0xE0 := by
    rw [UInt8.toNat_ofNat']
    omega
  have hlead : ∃ lo hi, lead (UInt8.ofNat (v / 4096 % 0x10 + 0xE0)) =
      .unfinished ⟨v / 4096, 2, lo, hi⟩ ∧ lo ≤ trailing (v / 64) ∧ trailing (v / 64) ≤ hi := by
    simp only [lead, hbyte]
    rw [if_neg (by omega), if_neg (by omega), if_neg (by omega)]
    by_cases hfirst : v / 4096 = 0
    · refine ⟨0xA0, 0xBF, ?_, trailing_mem 0xA0 0xBF (by omega) (by omega) (by decide)⟩
      rw [if_pos (by omega), hfirst]
    by_cases hsurrogate : v / 4096 = 0xD
    · refine ⟨0x80, 0x9F, ?_, trailing_mem 0x80 0x9F (by omega) (by omega) (by decide)⟩
      rw [if_neg (by omega), if_pos (by omega), hsurrogate]
    · refine ⟨0x80, 0xBF, ?_, trailing_mem 0x80 0xBF (by omega) (by omega) (by decide)⟩
      rw [if_neg (by omega), if_neg (by omega), if_pos (by omega), Nat.add_sub_cancel]
  obtain ⟨lo, hi, hlead, hmem⟩ := hlead
  rw [decodeFrom_of_unfinished _ hlead]
  exact decodeFrom_of_two rest hmem

/-- A character from `2 ^ 16` on. -/
theorem decodeFrom_quadruple (hlow : 0x10000 ≤ v) (hhigh : v < 0x110000) :
    decodeFrom none (UInt8.ofNat (v / 262144 % 0x08 + 0xF0) :: trailing (v / 4096) ::
        trailing (v / 64) :: trailing v :: rest) = Char.ofNat v :: decodeFrom none rest := by
  have hbyte : (UInt8.ofNat (v / 262144 % 0x08 + 0xF0)).toNat = v / 262144 + 0xF0 := by
    rw [UInt8.toNat_ofNat']
    omega
  have hlead : ∃ lo hi, lead (UInt8.ofNat (v / 262144 % 0x08 + 0xF0)) =
      .unfinished ⟨v / 262144, 3, lo, hi⟩ ∧ lo ≤ trailing (v / 4096) ∧
        trailing (v / 4096) ≤ hi := by
    simp only [lead, hbyte]
    rw [if_neg (by omega), if_neg (by omega), if_neg (by omega), if_neg (by omega),
      if_neg (by omega), if_neg (by omega)]
    by_cases hfirst : v / 262144 = 0
    · refine ⟨0x90, 0xBF, ?_, trailing_mem 0x90 0xBF (by omega) (by omega) (by decide)⟩
      rw [if_pos (by omega), hfirst]
    rw [if_neg (by omega)]
    by_cases hlast : v / 262144 = 4
    · refine ⟨0x80, 0x8F, ?_, trailing_mem 0x80 0x8F (by omega) (by omega) (by decide)⟩
      rw [if_neg (by omega), if_pos (by omega), hlast]
    · refine ⟨0x80, 0xBF, ?_, trailing_mem 0x80 0xBF (by omega) (by omega) (by decide)⟩
      rw [if_pos (by omega), Nat.add_sub_cancel]
  obtain ⟨lo, hi, hlead, hmem⟩ := hlead
  rw [decodeFrom_of_unfinished _ hlead]
  exact decodeFrom_of_three rest hmem

/-- The bytes of one character are decoded as that character. -/
theorem decodeFrom_utf8EncodeChar (c : Char) :
    decodeFrom none (String.utf8EncodeChar c ++ rest) = c :: decodeFrom none rest := by
  have hvalid : c.val.toNat < 0xD800 ∨ 0xDFFF < c.val.toNat ∧ c.val.toNat < 0x110000 := c.valid
  suffices hdecoded : decodeFrom none (String.utf8EncodeChar c ++ rest) =
      Char.ofNat c.toNat :: decodeFrom none rest by
    rwa [Char.ofNat_toNat] at hdecoded
  change decodeFrom none (ite (c.val.toNat ≤ 0x7F) _ _ ++ rest) = _
  split
  case isTrue hone => exact decodeFrom_single rest (by omega)
  split
  case isTrue htwo => exact decodeFrom_double rest (by omega) (by omega)
  split
  case isTrue hthree => exact decodeFrom_triple rest (by omega) (by omega) (by omega)
  case isFalse hfour => exact decodeFrom_quadruple rest (by omega) (by omega)

end Bytes

/-- Decoding undoes encoding. -/
theorem ofBytes_bytesOf (cs : List Char) : ofBytes (bytesOf cs) = cs := by
  induction cs with
  | nil => rfl
  | cons c cs ih =>
      change decodeFrom none (String.utf8EncodeChar c ++ bytesOf cs) = _
      rw [decodeFrom_utf8EncodeChar]
      exact congrArg (c :: ·) ih

end QuickFix.Text
