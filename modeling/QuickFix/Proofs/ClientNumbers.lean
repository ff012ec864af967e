import Mathlib.Order.Bounds.Basic
import QuickFix.Lsp.Diagnostic
import QuickFix.Proofs.ClientPosition

/-!
The numbers of positions that a client sends. They are cut to 32 bits, so larger ones mean another
place. A position is read as the place it names exactly if its line fits, and its code units do or
what is left of them reaches the end of the line anyway. Below the bound no larger number is read as
an earlier line or column.
-/

namespace QuickFix

namespace Text

variable {cs : List Char} {count less : Nat}

theorem charsCovering_min (cs : List Char) (count : Nat) :
    charsCovering cs (min count (units cs)) = charsCovering cs count := by
  rcases Nat.le_total count (units cs) with hin | hpast
  · rw [Nat.min_eq_left hin]
  · rw [Nat.min_eq_right hpast, charsCovering_of_units_le (Nat.le_refl _),
      charsCovering_of_units_le hpast]

/-- The characters that cover some code units are the fewest that have as many, or have all. -/
theorem isLeast_charsCovering (cs : List Char) (count : Nat) :
    IsLeast {n | min count (units cs) ≤ unitsBefore cs n} (charsCovering cs count) := by
  have hin : min count (units cs) ≤ units cs := Nat.min_le_right count (units cs)
  rw [← charsCovering_min]
  constructor
  · exact le_unitsBefore_charsCovering hin
  · intro n hn
    exact (charsCovering_le_iff hin).mpr hn

/-- Whether no fewer than all characters have some number of code units. -/
def Exhausts (cs : List Char) (count : Nat) : Prop := ∀ n < cs.length, unitsBefore cs n < count

theorem charsCovering_eq_length_iff : charsCovering cs count = cs.length ↔ Exhausts cs count := by
  constructor
  · intro hall n hn
    by_contra hfew
    have hcount : count ≤ unitsBefore cs n := Nat.le_of_not_lt hfew
    have hin : count ≤ units cs := Nat.le_trans hcount (unitsBefore_le_units cs n)
    have hcovers := (charsCovering_le_iff hin).mpr hcount
    omega
  · intro hexhausts
    by_contra hfewer
    have hlt : charsCovering cs count < cs.length :=
      Nat.lt_of_le_of_ne (charsCovering_le_length cs count) hfewer
    have hpast : ¬ units cs ≤ count := fun hpast => hfewer (charsCovering_of_units_le hpast)
    have hcovers := le_unitsBefore_charsCovering (Nat.le_of_not_le hpast)
    exact Nat.not_lt_of_le hcovers (hexhausts _ hlt)

/-- Fewer code units, by more than a character has, are covered alike only at the end of the text. -/
theorem charsCovering_eq_iff (hless : less + 2 ≤ count) :
    charsCovering cs less = charsCovering cs count ↔ Exhausts cs less := by
  rw [← charsCovering_eq_length_iff]
  have hmono := charsCovering_mono cs (Nat.le_trans (Nat.le_add_right less 2) hless)
  have hlength := charsCovering_le_length cs count
  constructor
  · intro heq
    by_cases hin : count ≤ units cs
    · have hcovers := le_unitsBefore_charsCovering hin
      have hfewer := charsCovering_lt (Nat.le_trans hless hcovers)
      omega
    · rw [heq, charsCovering_of_units_le (Nat.le_of_not_le hin)]
  · intro hall
    omega

end Text

namespace Json

/-- Whether a value is a position with these numbers. -/
structure IsPosition (value : Json) (line character : Nat) : Prop where
  line : value.get? "line" = some (.ofNat line)
  character : value.get? "character" = some (.ofNat character)

/-- Whether a value is a range between positions with these numbers. -/
def IsRange (value : Json) (line character line' character' : Nat) : Prop :=
  (∃ start, value.get? "start" = some start ∧ start.IsPosition line character) ∧
    ∃ stop, value.get? "end" = some stop ∧ stop.IsPosition line' character'

variable {value : Json} {line character line' character' : Nat}

/-- No number is too large to be read. -/
theorem IsPosition.ofJson? (hvalue : value.IsPosition line character) :
    ClientPosition.ofJson? value = some ⟨.ofNat line, .ofNat character⟩ := by
  rw [ClientPosition.ofJson?, hvalue.line, hvalue.character]
  rfl

theorem IsRange.ofJson? (hvalue : value.IsRange line character line' character') :
    ClientRange.ofJson? value =
      some ⟨⟨.ofNat line, .ofNat character⟩, ⟨.ofNat line', .ofNat character'⟩⟩ := by
  obtain ⟨⟨start, hstart, hposition⟩, stop, hstop, hposition'⟩ := hvalue
  simp only [ClientRange.ofJson?, hstart, hstop, Option.bind_eq_bind, Option.bind_some,
    hposition.ofJson?, hposition'.ofJson?]
  rfl

end Json

namespace Document

variable {d : Document} {line character line' character' : Nat} {p : Position}

/-- Whether a position is the one that a line and a number of code units mean: in that line the
fewest characters that have so many code units, or all its characters. -/
structure Means (d : Document) (line character : Nat) (p : Position) : Prop where
  line_eq : p.line = line
  isLeast : IsLeast {n | min character (Text.units ((d.line? line).getD [])) ≤
    Text.unitsBefore ((d.line? line).getD []) n} p.column

/-- Whether numbers mean the same when they are cut to 32 bits: the line is smaller, and what is left
of the code units is all of them or reaches the end of the line. -/
structure Fits (d : Document) (line character : Nat) : Prop where
  line_lt : line < 2 ^ 32
  units_lt : character < 2 ^ 32 ∨
    Text.Exhausts ((d.line? line).getD []) (character % 2 ^ 32)

/-- The position that is read from a line and a number of code units. -/
def readAt (d : Document) (line character : Nat) : Position :=
  d.ofClient ⟨.ofNat line, .ofNat character⟩

theorem readAt_eq (d : Document) (line character : Nat) :
    d.readAt line character = ⟨line % 2 ^ 32,
      Text.charsCovering ((d.line? (line % 2 ^ 32)).getD []) (character % 2 ^ 32)⟩ := by
  simp only [readAt, ofClient, UInt32.toNat_ofNat']

theorem means_iff : d.Means line character p ↔
    p = ⟨line, Text.charsCovering ((d.line? line).getD []) character⟩ := by
  have hleast := Text.isLeast_charsCovering ((d.line? line).getD []) character
  constructor
  · intro hmeans
    exact congrArg₂ Position.mk hmeans.line_eq (hmeans.isLeast.unique hleast)
  · rintro rfl
    exact ⟨rfl, hleast⟩

/-- The place that is read is the one that is named exactly if the numbers fit. -/
theorem means_readAt_iff (d : Document) (line character : Nat) :
    d.Means line character (d.readAt line character) ↔ d.Fits line character := by
  rw [means_iff, readAt_eq, Position.mk.injEq]
  have hcut : ∀ {n : Nat}, n % 2 ^ 32 = n ↔ n < 2 ^ 32 := by omega
  have hless : ¬ character < 2 ^ 32 → character % 2 ^ 32 + 2 ≤ character := by omega
  constructor
  · rintro ⟨hline, hcolumn⟩
    refine ⟨hcut.mp hline, ?_⟩
    by_cases hcharacter : character < 2 ^ 32
    · exact .inl hcharacter
    · rw [hline] at hcolumn
      exact .inr ((Text.charsCovering_eq_iff (hless hcharacter)).mp hcolumn)
  · rintro ⟨hline, hcharacter⟩
    rw [hcut.mpr hline]
    refine ⟨rfl, ?_⟩
    by_cases hsmall : character < 2 ^ 32
    · rw [hcut.mpr hsmall]
    · exact (Text.charsCovering_eq_iff (hless hsmall)).mpr (hcharacter.resolve_left hsmall)

/-- Numbers above the bound are read as what is left of them below it. -/
theorem readAt_mod (d : Document) (line character : Nat) :
    d.readAt line character = d.readAt (line % 2 ^ 32) (character % 2 ^ 32) := by
  simp only [readAt_eq, Nat.mod_mod]

theorem line_readAt_le (hline : line ≤ line') (hbound : line' < 2 ^ 32) :
    (d.readAt line character).line ≤ (d.readAt line' character').line := by
  simp only [readAt_eq]
  omega

theorem column_readAt_le (line : Nat) (hcharacter : character ≤ character')
    (hbound : character' < 2 ^ 32) :
    (d.readAt line character).column ≤ (d.readAt line character').column := by
  simp only [readAt_eq]
  apply Text.charsCovering_mono
  omega

/-- A diagnostic with such a range is read, and keeps the place that was read. -/
theorem exists_ofJson?_of_isRange {value range : Json} {message : String}
    (hrange : value.get? "range" = some range)
    (hnumbers : range.IsRange line character line' character')
    (hmessage : value.get? "message" = some (.string message)) :
    ∃ x, Diagnostic.ofJson? d value = some x ∧
      x.range = ⟨d.readAt line character, d.readAt line' character'⟩ := by
  simp only [Diagnostic.ofJson?, hrange, hmessage, hnumbers.ofJson?, Option.bind_eq_bind,
    Option.bind_some, Json.text?]
  exact ⟨_, rfl, rfl⟩

/-- How a document reads the numbers of a client. -/
structure ReadsNumbers (d : Document) : Prop where
  /-- A range is never refused for its numbers. -/
  range : ∀ (value : Json) (line character line' character' : Nat),
    value.IsRange line character line' character' →
      ∃ r, ClientRange.ofJson? value = some r ∧
        d.ofClientRange r = ⟨d.readAt line character, d.readAt line' character'⟩
  /-- Nor is a diagnostic, and it keeps the place that was read. -/
  diagnostic : ∀ (value range : Json) (message : String)
    (line character line' character' : Nat),
    value.get? "range" = some range → range.IsRange line character line' character' →
      value.get? "message" = some (.string message) →
        ∃ x, Diagnostic.ofJson? d value = some x ∧
          x.range = ⟨d.readAt line character, d.readAt line' character'⟩
  means_iff : ∀ line character,
    d.Means line character (d.readAt line character) ↔ d.Fits line character
  cut : ∀ line character,
    d.readAt line character = d.readAt (line % 2 ^ 32) (character % 2 ^ 32)
  lines_ordered : ∀ line line' character character', line ≤ line' → line' < 2 ^ 32 →
    (d.readAt line character).line ≤ (d.readAt line' character').line
  columns_ordered : ∀ line character character', character ≤ character' →
    character' < 2 ^ 32 → (d.readAt line character).column ≤ (d.readAt line character').column

/-- Every range of a client is read, and at the place it names exactly where its numbers fit. -/
theorem readsNumbers (d : Document) : d.ReadsNumbers where
  range _ _ _ _ _ hvalue := ⟨_, hvalue.ofJson?, rfl⟩
  diagnostic _ _ _ _ _ _ _ hrange hnumbers hmessage :=
    exists_ofJson?_of_isRange hrange hnumbers hmessage
  means_iff := d.means_readAt_iff
  cut := d.readAt_mod
  lines_ordered _ _ _ _ hline hbound := line_readAt_le hline hbound
  columns_ordered line _ _ hcharacter hbound := column_readAt_le line hcharacter hbound

end Document

namespace ClientNumbersWitness

def document : Document := .ofText ⟨"/a"⟩ "rust" "a😀b\nc"

/-- A position as a client writes it. -/
def position (line character : Nat) : Json :=
  .object [("line", .ofNat line), ("character", .ofNat character)]

def range (line character line' character' : Nat) : Json :=
  .object [("start", position line character), ("end", position line' character')]

theorem isRange_range (line character line' character' : Nat) :
    (range line character line' character').IsRange line character line' character' :=
  ⟨⟨_, rfl, rfl, rfl⟩, _, rfl, rfl, rfl⟩

/-- A pair is covered as a whole, and a number that is too large but reaches past the line does no
harm. A line that is too large is read as the first one. -/
theorem reads_wide_and_cut :
    (range 0 3 1 (2 ^ 32 + 7)).IsRange 0 3 1 (2 ^ 32 + 7) ∧
      (∃ r, ClientRange.ofJson? (range 0 3 1 (2 ^ 32 + 7)) = some r ∧
        document.ofClientRange r = ⟨⟨0, 2⟩, ⟨1, 1⟩⟩) ∧
      document.Means 1 (2 ^ 32 + 7) ⟨1, 1⟩ ∧ document.readAt (2 ^ 32) 3 = ⟨0, 2⟩ := by
  have hreads := document.readsNumbers
  have hfirst : document.readAt 0 3 = ⟨0, 2⟩ := by cbv
  have hsecond : document.readAt 1 (2 ^ 32 + 7) = ⟨1, 1⟩ := by cbv
  have hvalue := isRange_range 0 3 1 (2 ^ 32 + 7)
  obtain ⟨r, hr, hplace⟩ := hreads.range _ _ _ _ _ hvalue
  rw [hfirst, hsecond] at hplace
  have hfits : document.Fits 1 (2 ^ 32 + 7) := by
    have hcontent : (document.line? 1).getD [] = ['c'] := by cbv
    refine ⟨by decide, .inr ?_⟩
    rw [hcontent]
    intro n hn
    obtain rfl := Nat.lt_one_iff.mp hn
    decide
  have hmeans := (hreads.means_iff 1 (2 ^ 32 + 7)).mpr hfits
  rw [hsecond] at hmeans
  exact ⟨hvalue, ⟨r, hr, hplace⟩, hmeans, (hreads.cut (2 ^ 32) 3).trans hfirst⟩

/-- Not every range of 64-bit numbers is refused or read as the place it names. -/
theorem not_means_above_bound :
    ¬ ∀ (d : Document) (value : Json) (line character line' character' : Nat),
      line < 2 ^ 64 → character < 2 ^ 64 → line' < 2 ^ 64 → character' < 2 ^ 64 →
        value.IsRange line character line' character' →
          ClientRange.ofJson? value = none ∨
            ∃ r, ClientRange.ofJson? value = some r ∧
              d.Means line character (d.ofClientRange r).start ∧
              d.Means line' character' (d.ofClientRange r).stop := by
  intro hall
  have hvalue := isRange_range (2 ^ 32) 0 (2 ^ 32) 1
  have hread := hvalue.ofJson?
  rcases hall document _ _ _ _ _ (by decide) (by decide) (by decide) (by decide) hvalue with
    hnone | ⟨r, hr, hmeans, _⟩
  · cases hread.symm.trans hnone
  · obtain rfl := Option.some.inj (hread.symm.trans hr)
    have hfits := (document.means_readAt_iff (2 ^ 32) 0).mp hmeans
    exact absurd hfits.line_lt (by decide)

end ClientNumbersWitness

end QuickFix
