import Mathlib.Order.Monotone.Basic
import QuickFix.Text.Utf16

/-!
Characters and code units of one text. To count the code units of the first characters and to ask
how many characters cover some code units are adjoint: so many characters are enough exactly if they
have so many code units. The rest follows from that: both counts are monotone, the second undoes the
first, and the first undoes the second up to the half of a pair that is rounded up.
-/

namespace QuickFix.Text

variable {c : Char} {cs text : List Char} {n count : Nat}

theorem unitsOf_pos (c : Char) : 0 < unitsOf c := by
  unfold unitsOf
  split <;> decide

theorem unitsOf_le (c : Char) : unitsOf c ≤ 2 := by
  unfold unitsOf
  split <;> decide

theorem units_cons (c : Char) (cs : List Char) : units (c :: cs) = unitsOf c + units cs := rfl

theorem units_append (front behind : List Char) :
    units (front ++ behind) = units front + units behind := by
  induction front with
  | nil => exact (Nat.zero_add _).symm
  | cons c front ih =>
      change unitsOf c + units (front ++ behind) = unitsOf c + units front + units behind
      rw [ih, Nat.add_assoc]

theorem units_le_units {front whole : List Char} (hbegins : front <+: whole) :
    units front ≤ units whole := by
  obtain ⟨behind, rfl⟩ := hbegins
  rw [units_append]
  exact Nat.le_add_right _ _

theorem unitsBefore_zero (cs : List Char) : unitsBefore cs 0 = 0 := rfl

theorem unitsBefore_cons_succ (c : Char) (cs : List Char) (n : Nat) :
    unitsBefore (c :: cs) (n + 1) = unitsOf c + unitsBefore cs n := rfl

theorem unitsBefore_le_units (cs : List Char) (n : Nat) : unitsBefore cs n ≤ units cs :=
  units_le_units (List.take_prefix n cs)

theorem unitsBefore_of_length_le (hn : cs.length ≤ n) : unitsBefore cs n = units cs := by
  rw [unitsBefore, List.take_of_length_le hn]

theorem unitsBefore_length (text : List Char) : unitsBefore text text.length = units text :=
  unitsBefore_of_length_le (Nat.le_refl _)

theorem unitsBefore_mono (cs : List Char) : Monotone (unitsBefore cs) := by
  intro n later hle
  exact units_le_units (List.take_prefix_take_left hle)

theorem unitsBefore_lt {offset later : Nat} (hlt : offset < later) (hlater : later ≤ text.length) :
    unitsBefore text offset < unitsBefore text later := by
  induction text generalizing offset later with
  | nil => exact absurd hlater (Nat.not_le_of_lt (Nat.zero_lt_of_lt hlt))
  | cons c rest ih =>
      cases later with
      | zero => exact absurd hlt (Nat.not_lt_zero offset)
      | succ later =>
          rw [unitsBefore_cons_succ]
          cases offset with
          | zero => exact Nat.add_pos_left (unitsOf_pos c) _
          | succ offset =>
              rw [unitsBefore_cons_succ]
              exact Nat.add_lt_add_left
                (ih (Nat.lt_of_succ_lt_succ hlt) (Nat.le_of_succ_le_succ hlater)) _

/-- One more character has at most two more code units. -/
theorem unitsBefore_succ_le (cs : List Char) (n : Nat) :
    unitsBefore cs (n + 1) ≤ unitsBefore cs n + 2 := by
  induction cs generalizing n with
  | nil => exact Nat.zero_le _
  | cons c cs ih =>
      rw [unitsBefore_cons_succ]
      cases n with
      | zero =>
          rw [unitsBefore_zero, unitsBefore_zero]
          exact Nat.le_trans (unitsOf_le c) (Nat.le_add_left _ _)
      | succ n =>
          have hrest := ih n
          rw [unitsBefore_cons_succ]
          omega

theorem charsCovering_zero (cs : List Char) : charsCovering cs 0 = 0 := by
  cases cs <;> rfl

theorem charsCovering_cons (hcount : count ≠ 0) :
    charsCovering (c :: cs) count = charsCovering cs (count - unitsOf c) + 1 := by
  rw [charsCovering, if_neg hcount]

/-- So many characters cover some code units exactly if they have as many. -/
theorem charsCovering_le_iff (hcount : count ≤ units cs) :
    charsCovering cs count ≤ n ↔ count ≤ unitsBefore cs n := by
  induction cs generalizing count n with
  | nil =>
      obtain rfl := Nat.le_zero.mp hcount
      exact iff_of_true (Nat.zero_le n) (Nat.zero_le _)
  | cons c cs ih =>
      by_cases hzero : count = 0
      · subst hzero
        rw [charsCovering_zero]
        exact iff_of_true (Nat.zero_le n) (Nat.zero_le _)
      · rw [units_cons] at hcount
        rw [charsCovering_cons hzero]
        cases n with
        | zero =>
            rw [unitsBefore_zero]
            omega
        | succ n =>
            have hrest : charsCovering cs (count - unitsOf c) ≤ n ↔
                count - unitsOf c ≤ unitsBefore cs n := ih (by omega)
            rw [unitsBefore_cons_succ]
            omega

/-- The characters that cover some code units have as many. -/
theorem le_unitsBefore_charsCovering (hcount : count ≤ units cs) :
    count ≤ unitsBefore cs (charsCovering cs count) :=
  (charsCovering_le_iff hcount).mp (Nat.le_refl _)

/-- The code units of the first characters cover these and no more. -/
theorem charsCovering_unitsBefore (hn : n ≤ cs.length) :
    charsCovering cs (unitsBefore cs n) = n := by
  have hcovers := le_unitsBefore_charsCovering (unitsBefore_le_units cs n)
  apply Nat.le_antisymm
  · exact (charsCovering_le_iff (unitsBefore_le_units cs n)).mpr (Nat.le_refl _)
  · by_contra hless
    exact Nat.not_lt_of_le hcovers (unitsBefore_lt (Nat.lt_of_not_le hless) hn)

theorem charsCovering_le_length (cs : List Char) (count : Nat) :
    charsCovering cs count ≤ cs.length := by
  induction cs generalizing count with
  | nil => exact Nat.le_refl _
  | cons c cs ih =>
      by_cases hzero : count = 0
      · rw [hzero, charsCovering_zero]
        exact Nat.zero_le _
      · rw [charsCovering_cons hzero]
        exact Nat.succ_le_succ (ih _)

theorem charsCovering_of_units_le (hcount : units cs ≤ count) :
    charsCovering cs count = cs.length := by
  induction cs generalizing count with
  | nil => rfl
  | cons c cs ih =>
      rw [units_cons] at hcount
      have hpos := unitsOf_pos c
      rw [charsCovering_cons (by omega), ih (by omega), List.length_cons]

theorem charsCovering_mono (cs : List Char) : Monotone (charsCovering cs) := by
  intro count larger hle
  rcases Nat.le_total larger (units cs) with hin | hpast
  · have hcovers := le_unitsBefore_charsCovering hin
    exact (charsCovering_le_iff (Nat.le_trans hle hin)).mpr (Nat.le_trans hle hcovers)
  · rw [charsCovering_of_units_le hpast]
    exact charsCovering_le_length cs count

/-- Whether a number of code units ends inside a character of two. -/
def SplitsPair (cs : List Char) (count : Nat) : Prop :=
  ∃ n c, cs[n]? = some c ∧ unitsOf c = 2 ∧ count = unitsBefore cs n + 1

theorem not_splitsPair_zero (cs : List Char) : ¬ SplitsPair cs 0 := by
  rintro ⟨n, c, _, _, hzero⟩
  exact Nat.succ_ne_zero _ hzero.symm

theorem splitsPair_cons (hcount : unitsOf c ≤ count) :
    SplitsPair (c :: cs) count ↔ SplitsPair cs (count - unitsOf c) := by
  constructor
  · rintro ⟨n, b, hb, hwide, hn⟩
    cases n with
    | zero =>
        obtain rfl : c = b := Option.some.inj hb
        rw [unitsBefore_zero] at hn
        omega
    | succ n =>
        rw [unitsBefore_cons_succ] at hn
        exact ⟨n, b, hb, hwide, by omega⟩
  · rintro ⟨n, b, hb, hwide, hn⟩
    exact ⟨n + 1, b, hb, hwide, by rw [unitsBefore_cons_succ]; omega⟩

/-- What covers some code units has exactly as many, unless they end inside a character: then it has
one more. -/
theorem unitsBefore_charsCovering (hcount : count ≤ units cs) :
    SplitsPair cs count ∧ unitsBefore cs (charsCovering cs count) = count + 1 ∨
      ¬ SplitsPair cs count ∧ unitsBefore cs (charsCovering cs count) = count := by
  induction cs generalizing count with
  | nil =>
      obtain rfl := Nat.le_zero.mp hcount
      exact .inr ⟨not_splitsPair_zero [], rfl⟩
  | cons c cs ih =>
      by_cases hzero : count = 0
      · subst hzero
        rw [charsCovering_zero]
        exact .inr ⟨not_splitsPair_zero _, rfl⟩
      · rw [units_cons] at hcount
        rw [charsCovering_cons hzero, unitsBefore_cons_succ]
        by_cases hfirst : count < unitsOf c
        · have hle := unitsOf_le c
          have hrest : count - unitsOf c = 0 := by omega
          have hsplits : SplitsPair (c :: cs) count :=
            ⟨0, c, rfl, by omega, by rw [unitsBefore_zero]; omega⟩
          rw [hrest, charsCovering_zero, unitsBefore_zero]
          exact .inl ⟨hsplits, by omega⟩
        · have hle : unitsOf c ≤ count := Nat.le_of_not_lt hfirst
          have hrest : count - unitsOf c ≤ units cs := by omega
          rw [splitsPair_cons hle]
          rcases ih hrest with ⟨hsplits, heq⟩ | ⟨hwhole, heq⟩
          · exact .inl ⟨hsplits, by omega⟩
          · exact .inr ⟨hwhole, by omega⟩

/-- How characters and code units of a text count each other. -/
structure CountsUnits (cs : List Char) : Prop where
  adjoint : ∀ count n, count ≤ units cs → n ≤ cs.length →
    (charsCovering cs count ≤ n ↔ count ≤ unitsBefore cs n)
  undone : ∀ n, n ≤ cs.length → charsCovering cs (unitsBefore cs n) = n
  /-- A count that splits a pair is rounded up, and no other one is. -/
  rounded : ∀ count, count ≤ units cs →
    SplitsPair cs count ∧ unitsBefore cs (charsCovering cs count) = count + 1 ∨
      ¬ SplitsPair cs count ∧ unitsBefore cs (charsCovering cs count) = count
  units_mono : Monotone (unitsBefore cs)
  chars_mono : Monotone (charsCovering cs)
  units_clamped : ∀ n, cs.length ≤ n → unitsBefore cs n = units cs
  chars_clamped : ∀ count, units cs ≤ count → charsCovering cs count = cs.length

theorem countsUnits (cs : List Char) : CountsUnits cs where
  adjoint _ _ hcount _ := charsCovering_le_iff hcount
  undone _ := charsCovering_unitsBefore
  rounded _ := unitsBefore_charsCovering
  units_mono := unitsBefore_mono cs
  chars_mono := charsCovering_mono cs
  units_clamped _ := unitsBefore_of_length_le
  chars_clamped _ := charsCovering_of_units_le

end QuickFix.Text
