import QuickFix.Proofs.Occurrence
import QuickFix.Proofs.Preference
import QuickFix.Proofs.Replacement

/-!
Reading replacement strings. A replacement string falls into tokens and characters that stand for
themselves in one way only, from left to right: where a token begins it is read, a number with two
digits before its first digit alone, and any other character stands for itself. The string stands
for the values of its parts one after the other, and no value is read again.
-/

namespace QuickFix

/-- A part of a replacement string: a character that stands for itself, or a token. -/
inductive ReplacementPart where
  | literal (c : Char)
  | dollar
  | whole
  | before
  | behind
  | named (name : List Char)
  | oneDigit (n : Fin 10)
  | twoDigits (tens units : Fin 10)
  deriving DecidableEq, Repr

namespace ReplacementPart

/-- The character of a decimal digit. -/
def digitChar (n : Fin 10) : Char := Char.ofNat (48 + n)

/-- How a part is written. -/
def spelling : ReplacementPart → List Char
  | literal c => [c]
  | dollar => ['$', '$']
  | whole => ['$', '&']
  | before => ['$', '\x60']
  | behind => ['$', '\'']
  | named name => '$' :: '<' :: name ++ ['>']
  | oneDigit n => ['$', digitChar n]
  | twoDigits tens units => ['$', digitChar tens, digitChar units]

/-- Whether a part is a token for an expression with some number of groups, the whole match
included, and their names. -/
def IsToken (groups : Nat) (names : List (Option String)) : ReplacementPart → Prop
  | literal _ => False
  | dollar | whole | before | behind => True
  | named name => (∃ group : String, some group ∈ names) ∧ '>' ∉ name
  | oneDigit n => 1 ≤ n.val ∧ n.val < groups
  | twoDigits tens units => 1 ≤ tens.val * 10 + units.val ∧ tens.val * 10 + units.val < groups

/-- Whether a part is the token that a text begins with. A number with two digits goes before its
first digit alone. -/
structure Begins (groups : Nat) (names : List (Option String)) (cs : List Char)
    (part : ReplacementPart) : Prop where
  isToken : part.IsToken groups names
  spelled : part.spelling <+: cs
  longest : ∀ tens units, part = .oneDigit tens → (twoDigits tens units).IsToken groups names →
    ¬ (twoDigits tens units).spelling <+: cs

/-- The parts of a text from left to right: tokens where they begin, and characters that stand for
themselves elsewhere. -/
inductive Reads (groups : Nat) (names : List (Option String)) :
    List Char → List ReplacementPart → Prop
  | nil : Reads groups names [] []
  | token {part : ReplacementPart} {rest : List Char} {parts : List ReplacementPart} :
      Begins groups names (part.spelling ++ rest) part → Reads groups names rest parts →
        Reads groups names (part.spelling ++ rest) (part :: parts)
  | literal {c : Char} {rest : List Char} {parts : List ReplacementPart} :
      (∀ part, ¬ Begins groups names (c :: rest) part) → Reads groups names rest parts →
        Reads groups names (c :: rest) (literal c :: parts)

/-- What a part stands for in a match. -/
def value (e : Expansion) : ReplacementPart → List Char
  | literal c => [c]
  | dollar => ['$']
  | whole => e.group 0
  | before => e.text.take (Regex.Spans.whole e.spans).start
  | behind => e.text.drop (Regex.Spans.whole e.spans).stop
  | named name => e.named (String.ofList name)
  | oneDigit n => e.group n
  | twoDigits tens units => e.group (tens * 10 + units)

variable {groups : Nat} {names : List (Option String)} {cs : List Char} {part : ReplacementPart}

theorem digit?_digitChar (n : Fin 10) : Expansion.digit? (digitChar n) = some n.val := by
  revert n
  decide

theorem digitChar_injective : Function.Injective digitChar := by
  intro n n' heq
  have hsome := digit?_digitChar n
  rw [heq, digit?_digitChar, Option.some.injEq] at hsome
  exact Fin.ext hsome.symm

theorem exists_digitChar_of_digit? {c : Char} {n : Nat} (hdigit : Expansion.digit? c = some n) :
    ∃ d : Fin 10, c = digitChar d ∧ n = d.val := by
  unfold Expansion.digit? at hdigit
  split at hdigit
  · rename_i hrange
    obtain rfl := Option.some.inj hdigit
    have hlow : 48 ≤ c.toNat := hrange.1
    have hhigh : c.toNat ≤ 57 := hrange.2
    refine ⟨⟨c.toNat - 48, by omega⟩, ?_, rfl⟩
    rw [digitChar, Nat.add_sub_cancel' hlow, Char.ofNat_toNat]
  · cases hdigit

theorem exists_spelling_eq_cons (htoken : part.IsToken groups names) :
    ∃ rest, part.spelling = '$' :: rest := by
  cases part with
  | literal c => exact htoken.elim
  | dollar | whole | before | behind | named _ | oneDigit _ | twoDigits _ _ => exact ⟨_, rfl⟩

theorem Begins.eq_dollar {c : Char} (hbegins : Begins groups names (c :: cs) part) : c = '$' := by
  obtain ⟨rest, hrest⟩ := exists_spelling_eq_cons hbegins.isToken
  have hspelled := hbegins.spelled
  rw [hrest] at hspelled
  exact (List.cons_prefix_cons.mp hspelled).1.symm

/-- The character of a token behind its dollar sign. -/
def mark : ReplacementPart → Char
  | literal c => c
  | dollar => '$'
  | whole => '&'
  | before => '\x60'
  | behind => '\''
  | named _ => '<'
  | oneDigit n => digitChar n
  | twoDigits tens _ => digitChar tens

/-- What stands in a token behind its mark. -/
def tail : ReplacementPart → List Char
  | named name => name ++ ['>']
  | twoDigits _ units => [digitChar units]
  | _ => []

theorem spelling_eq (htoken : part.IsToken groups names) :
    part.spelling = '$' :: part.mark :: part.tail := by
  cases part with
  | literal c => exact htoken.elim
  | dollar | whole | before | behind | named _ | oneDigit _ | twoDigits _ _ => rfl

/-- No token is the beginning of another one but a digit of a number with two. -/
theorem eq_or_of_prefix {other : ReplacementPart} (hpart : part.IsToken groups names)
    (hother : other.IsToken groups names) (hfront : part.spelling <+: other.spelling) :
    part = other ∨ ∃ tens units, part = oneDigit tens ∧ other = twoDigits tens units := by
  rw [spelling_eq hpart, spelling_eq hother, List.cons_prefix_cons, List.cons_prefix_cons]
    at hfront
  obtain ⟨-, hmark, htail⟩ := hfront
  have hdigit := congrArg Expansion.digit? hmark
  cases part with
  | literal c => exact hpart.elim
  | dollar | whole | before | behind =>
      left
      cases other with
      | literal c => exact hother.elim
      | oneDigit n => exact nomatch hdigit.trans (digit?_digitChar n)
      | twoDigits tens units => exact nomatch hdigit.trans (digit?_digitChar tens)
      | dollar | whole | before | behind | named _ => simp_all [mark]
  | named name =>
      left
      cases other with
      | literal c => exact hother.elim
      | named name' =>
          obtain ⟨behind, hbehind⟩ := htail
          simp only [tail, List.append_assoc, List.singleton_append] at hbehind
          rw [Text.eq_of_append_mark hpart.2 hother.2 hbehind]
      | oneDigit n => exact nomatch hdigit.trans (digit?_digitChar n)
      | twoDigits tens units => exact nomatch hdigit.trans (digit?_digitChar tens)
      | dollar | whole | before | behind => simp_all [mark]
  | oneDigit n =>
      cases other with
      | literal c => exact hother.elim
      | oneDigit n' => exact .inl (by rw [digitChar_injective hmark])
      | twoDigits tens units => exact .inr ⟨tens, units, by rw [digitChar_injective hmark], rfl⟩
      | dollar | whole | before | behind | named _ =>
          exact nomatch (digit?_digitChar n).symm.trans hdigit
  | twoDigits tens units =>
      left
      cases other with
      | literal c => exact hother.elim
      | twoDigits tens' units' =>
          have hunits : digitChar units = digitChar units' :=
            (List.cons_prefix_cons.mp htail).1
          rw [digitChar_injective hmark, digitChar_injective hunits]
      | oneDigit n => simp [tail] at htail
      | dollar | whole | before | behind | named _ =>
          exact nomatch (digit?_digitChar tens).symm.trans hdigit

theorem Begins.unique {other : ReplacementPart} (hpart : Begins groups names cs part)
    (hother : Begins groups names cs other) : part = other := by
  rcases List.prefix_or_prefix_of_prefix hpart.spelled hother.spelled with hfront | hfront
  · rcases eq_or_of_prefix hpart.isToken hother.isToken hfront with heq | ⟨tens, units, hone, rfl⟩
    · exact heq
    · exact absurd hother.spelled (hpart.longest tens units hone hother.isToken)
  · rcases eq_or_of_prefix hother.isToken hpart.isToken hfront with heq | ⟨tens, units, hone, rfl⟩
    · exact heq.symm
    · exact absurd hpart.spelled (hother.longest tens units hone hpart.isToken)

theorem spelling_ne_nil {part : ReplacementPart} : part.spelling ≠ [] := by
  cases part <;> exact List.cons_ne_nil _ _

theorem Reads.unique {parts other : List ReplacementPart} (hparts : Reads groups names cs parts)
    (hother : Reads groups names cs other) : other = parts := by
  induction hparts generalizing other with
  | nil =>
      generalize hempty : ([] : List Char) = empty at hother
      cases hother with
      | nil => rfl
      | token _ _ => exact absurd (List.append_eq_nil_iff.mp hempty.symm).1 spelling_ne_nil
      | literal _ _ => cases hempty
  | @token part rest parts hbegins _ ih =>
      generalize htext : part.spelling ++ rest = text at hother
      cases hother with
      | nil => exact absurd (List.append_eq_nil_iff.mp htext).1 spelling_ne_nil
      | token hbegins' hrest =>
          rw [htext] at hbegins
          obtain rfl := hbegins.unique hbegins'
          rw [← List.append_cancel_left htext] at hrest
          rw [ih hrest]
      | literal hnone _ => exact absurd (htext ▸ hbegins) (hnone part)
  | @literal c rest parts hnone _ ih =>
      generalize htext : c :: rest = text at hother
      cases hother with
      | nil => cases htext
      | token hbegins _ => exact absurd (htext ▸ hbegins) (hnone _)
      | literal _ hrest =>
          obtain ⟨rfl, rfl⟩ := List.cons.inj htext
          rw [ih hrest]

theorem Reads.spelled {parts : List ReplacementPart} (hreads : Reads groups names cs parts) :
    parts.flatMap spelling = cs := by
  induction hreads with
  | nil => rfl
  | token _ _ ih => rw [List.flatMap_cons, ih]
  | literal _ _ ih => rw [List.flatMap_cons, ih]; rfl

/-- Every text has a reading: a token takes a character at least, so what is left gets shorter. -/
theorem exists_reads (groups : Nat) (names : List (Option String)) (cs : List Char) :
    ∃ parts, Reads groups names cs parts := by
  induction hlength : cs.length using Nat.strong_induction_on generalizing cs with
  | _ length ih =>
      cases cs with
      | nil => exact ⟨[], .nil⟩
      | cons c rest =>
          by_cases htoken : ∃ part, Begins groups names (c :: rest) part
          · obtain ⟨part, hbegins⟩ := htoken
            obtain ⟨behind, hbehind⟩ := hbegins.spelled
            have hpos : 0 < part.spelling.length := List.length_pos_iff.mpr spelling_ne_nil
            have hsum := congrArg List.length hbehind
            rw [List.length_append, hlength] at hsum
            obtain ⟨parts, hparts⟩ := ih behind.length (by omega) behind rfl
            rw [← hbehind] at hbegins ⊢
            exact ⟨part :: parts, .token hbegins hparts⟩
          · obtain ⟨parts, hparts⟩ := ih rest.length (by rw [← hlength]; simp) rest rfl
            exact ⟨literal c :: parts, .literal (fun part hpart => htoken ⟨part, hpart⟩) hparts⟩

end ReplacementPart

namespace Expansion

open ReplacementPart

variable {e : Expansion} {cs : List Char} {part : ReplacementPart}

theorem hasGroup_iff {index : Nat} :
    e.hasGroup index = true ↔ 1 ≤ index ∧ index < e.spans.length := by
  rw [hasGroup, Bool.and_eq_true, decide_eq_true_eq, decide_eq_true_eq]

theorem token_of_digit? {c : Char} {n : Nat} (hdigit : digit? c = some n) (rest : List Char) :
    e.token ('$' :: c :: rest) = e.numbered n rest := by
  have hne : ∀ other, digit? other = none → c ≠ other := by
    rintro other hnone rfl
    exact nomatch hdigit.symm.trans hnone
  simp only [token, hne '$' rfl, hne '&' rfl, hne '\x60' rfl, hne '\'' rfl, hne '<' rfl, if_false,
    hdigit]

theorem numbered_of_twoDigits {n second : Nat} {rest : List Char}
    (hsecond : rest.head?.bind digit? = some second) (hgroup : e.hasGroup (n * 10 + second) = true) :
    e.numbered n rest = some (e.group (n * 10 + second), 3) := by
  simp only [numbered, hsecond, hgroup, if_true]

theorem numbered_of_oneDigit {n : Nat} {rest : List Char}
    (hnone : ∀ second, rest.head?.bind digit? = some second →
      ¬ e.hasGroup (n * 10 + second) = true) : e.numbered n rest = e.oneDigit n := by
  unfold numbered
  split
  · rename_i second hsecond
    rw [if_neg (hnone second hsecond)]
  · rfl

theorem exists_cons_of_head? {rest : List Char} {second : Nat}
    (hsecond : rest.head?.bind digit? = some second) :
    ∃ (d : Fin 10) (behind : List Char), rest = digitChar d :: behind ∧ second = d.val := by
  cases rest with
  | nil => cases hsecond
  | cons c behind =>
      obtain ⟨d, rfl, hd⟩ := exists_digitChar_of_digit? hsecond
      exact ⟨d, behind, rfl, hd⟩

theorem not_mem_takeWhile (cs : List Char) : '>' ∉ cs.takeWhile (· ≠ '>') := by
  intro hmem
  simpa using List.mem_takeWhile_imp hmem

theorem exists_takeWhile_name (hmem : '>' ∈ cs) :
    ∃ behind, cs.takeWhile (· ≠ '>') ++ '>' :: behind = cs := by
  obtain ⟨front, behind, rfl, hfront⟩ := List.eq_append_cons_of_mem hmem
  exact ⟨behind, by rw [Text.takeWhile_append_mark hfront]⟩

theorem any_isSome_iff {names : List (Option String)} :
    names.any Option.isSome = true ↔ ∃ group : String, some group ∈ names := by
  rw [List.any_eq_true]
  constructor
  · rintro ⟨name, hname, hsome⟩
    obtain ⟨group, rfl⟩ := Option.isSome_iff_exists.mp hsome
    exact ⟨group, hname⟩
  · rintro ⟨group, hgroup⟩
    exact ⟨some group, hgroup, rfl⟩

/-- Where a token begins, its value and its length are read. -/
theorem token_of_begins (hbegins : Begins e.spans.length e.names cs part) :
    e.token cs = some (part.value e, part.spelling.length) := by
  obtain ⟨htoken, ⟨rest, rfl⟩, hlongest⟩ := hbegins
  cases part with
  | literal c => exact htoken.elim
  | dollar | whole | before | behind => rfl
  | named name =>
      have htext : (ReplacementPart.named name).spelling ++ rest =
          '$' :: '<' :: (name ++ '>' :: rest) := by
        simp [spelling]
      have hcontains : (name ++ '>' :: rest).contains '>' = true := by simp
      rw [htext]
      change e.byName (name ++ '>' :: rest) = _
      rw [byName, any_isSome_iff.mpr htoken.1, hcontains, Bool.and_self, if_pos rfl,
        Text.takeWhile_append_mark htoken.2]
      simp [value, spelling]
  | oneDigit n =>
      change e.token ('$' :: digitChar n :: rest) = _
      rw [token_of_digit? (digit?_digitChar n), numbered_of_oneDigit, oneDigit,
        if_pos (hasGroup_iff.mpr htoken)]
      · rfl
      · intro second hsecond hgroup
        obtain ⟨d, behind, rfl, rfl⟩ := exists_cons_of_head? hsecond
        exact hlongest n d rfl (hasGroup_iff.mp hgroup) ⟨behind, rfl⟩
  | twoDigits tens units =>
      change e.token ('$' :: digitChar tens :: digitChar units :: rest) = _
      rw [token_of_digit? (digit?_digitChar tens)]
      exact numbered_of_twoDigits (digit?_digitChar units) (hasGroup_iff.mpr htoken)

/-- What is read as a token is one. -/
theorem exists_begins_of_token {read : List Char × Nat} (hread : e.token cs = some read) :
    ∃ part, Begins e.spans.length e.names cs part := by
  have hother : ∀ {part : ReplacementPart}, (∀ tens, part ≠ .oneDigit tens) →
      ∀ tens units, part = .oneDigit tens →
        (twoDigits tens units).IsToken e.spans.length e.names →
          ¬ (twoDigits tens units).spelling <+: cs :=
    fun hne tens _ heq => absurd heq (hne tens)
  unfold token at hread
  split at hread
  · rename_i c rest
    split_ifs at hread with hdollar hand hback hquote hangle
    · exact ⟨dollar, trivial, ⟨rest, by rw [hdollar]; rfl⟩, hother nofun⟩
    · exact ⟨whole, trivial, ⟨rest, by rw [hand]; rfl⟩, hother nofun⟩
    · exact ⟨before, trivial, ⟨rest, by rw [hback]; rfl⟩, hother nofun⟩
    · exact ⟨behind, trivial, ⟨rest, by rw [hquote]; rfl⟩, hother nofun⟩
    · unfold byName at hread
      split at hread
      · rename_i hnamed
        rw [Bool.and_eq_true, any_isSome_iff, List.contains_iff_mem] at hnamed
        obtain ⟨behind, hbehind⟩ := exists_takeWhile_name hnamed.2
        refine ⟨.named (rest.takeWhile (· ≠ '>')), ⟨hnamed.1, not_mem_takeWhile rest⟩, ⟨behind, ?_⟩,
          hother nofun⟩
        rw [hangle]
        simpa [spelling] using hbehind
      · cases hread
    · split at hread
      · rename_i first hfirst
        obtain ⟨tens, rfl, rfl⟩ := exists_digitChar_of_digit? hfirst
        by_cases htwo : ∃ units, (twoDigits tens units).IsToken e.spans.length e.names ∧
            (twoDigits tens units).spelling <+: '$' :: digitChar tens :: rest
        · obtain ⟨units, htoken, hspelled⟩ := htwo
          exact ⟨_, htoken, hspelled, hother nofun⟩
        · rw [numbered_of_oneDigit, oneDigit] at hread
          · split at hread
            · rename_i hgroup
              refine ⟨.oneDigit tens, hasGroup_iff.mp hgroup, ⟨rest, rfl⟩, ?_⟩
              rintro _ units ⟨⟩ htoken hspelled
              exact htwo ⟨units, htoken, hspelled⟩
            · cases hread
          · intro second hsecond hgroup
            obtain ⟨units, behind, rfl, rfl⟩ := exists_cons_of_head? hsecond
            exact htwo ⟨units, hasGroup_iff.mp hgroup, behind, rfl⟩
      · cases hread
  · cases hread

theorem token_eq_none_iff :
    e.token cs = none ↔ ∀ part, ¬ Begins e.spans.length e.names cs part := by
  constructor
  · intro hnone part hbegins
    exact nomatch hnone.symm.trans (token_of_begins hbegins)
  · intro hnone
    cases hread : e.token cs with
    | none => rfl
    | some read =>
        obtain ⟨part, hbegins⟩ := exists_begins_of_token hread
        exact absurd hbegins (hnone part)

/-- A replacement string stands for the values of its parts. -/
theorem expand_of_reads {parts : List ReplacementPart}
    (hreads : Reads e.spans.length e.names cs parts) : e.expand cs = parts.flatMap (value e) := by
  induction hreads with
  | nil => rfl
  | @token part rest parts hbegins _ ih =>
      rw [List.flatMap_cons, ← ih]
      exact Text.rewrite_token _ spelling_ne_nil (token_of_begins hbegins)
  | literal hnone _ ih =>
      rw [List.flatMap_cons, ← ih]
      exact Text.rewrite_cons_of_none _ (token_eq_none_iff.mpr hnone)

end Expansion

namespace Regex

theorem length_spansOf (slots : Slots) : (spansOf slots).length = slots.length / 2 := by
  fun_induction spansOf slots with
  | case1 a b rest ih =>
      rw [List.length_cons, ih, List.length_cons, List.length_cons]
      omega
  | case2 a b rest _ ih =>
      rw [List.length_cons, ih, List.length_cons, List.length_cons]
      omega
  | case3 slots hnoted hpair =>
      match slots with
      | [] => rfl
      | [a] => cases a <;> simp
      | a :: b :: rest => exact (hpair a b rest rfl).elim

/-- A match has a span, or none, for each group of its expression. -/
theorem length_of_matchFrom? {re : Regex} {text : List Char} {start : Nat} {spans : Spans}
    (hmatch : re.matchFrom? text start = some spans) : spans.length = re.groupCount := by
  obtain ⟨slots, hsearch, rfl⟩ := Option.map_eq_some_iff.mp hmatch
  obtain ⟨found, hfound, rfl⟩ := search_eq_some_iff.mp hsearch
  have hlength : found.slots.length = 2 * re.groupCount := by
    refine hfound.invariant (p := fun t => t.slots.length = 2 * re.groupCount) ?_ ?_
    · intro t ht
      obtain ⟨place, _, rfl⟩ := List.mem_map.mp ht
      exact List.length_replicate
    · intro t inst ht _ on hon
      rcases (Thread.continues_of_mem_next hon).slots with hsame | ⟨slot, _, hset⟩
      · rw [hsame, ht]
      · rw [hset, List.length_set, ht]
  rw [length_spansOf, hlength, Nat.mul_div_cancel_left _ Nat.zero_lt_two]

end Regex

namespace ReplacementPart

/-- A text with each dollar sign written twice. -/
def doubled (cs : List Char) : List Char := cs.flatMap fun c => if c = '$' then ['$', '$'] else [c]

/-- What a text with each dollar sign written twice is read as. -/
def ofDoubled (c : Char) : ReplacementPart := if c = '$' then dollar else literal c

theorem reads_doubled (groups : Nat) (names : List (Option String)) (cs : List Char) :
    Reads groups names (doubled cs) (cs.map ofDoubled) := by
  induction cs with
  | nil => exact .nil
  | cons c rest ih =>
      rw [doubled, List.flatMap_cons, List.map_cons, ← doubled, ofDoubled]
      by_cases hc : c = '$'
      · rw [if_pos hc, if_pos hc]
        have hbegins : Begins groups names (dollar.spelling ++ doubled rest) dollar :=
          ⟨trivial, ⟨_, rfl⟩, nofun⟩
        exact .token hbegins ih
      · rw [if_neg hc, if_neg hc]
        exact .literal (fun part hbegins => hc hbegins.eq_dollar) ih

theorem flatMap_value_ofDoubled (e : Expansion) (cs : List Char) :
    (cs.map ofDoubled).flatMap (value e) = cs := by
  induction cs with
  | nil => rfl
  | cons c rest ih =>
      rw [List.map_cons, List.flatMap_cons, ih, ofDoubled]
      split
      · rename_i hc
        rw [hc]
        rfl
      · rfl

end ReplacementPart

namespace Captured

open ReplacementPart

variable {m : Captured} {spans : Regex.Spans}

theorem substitute_eq (hmatch : m.pattern.matchFrom? m.matched.toList 0 = some spans)
    (replacement : String) : m.substitute replacement =
      String.ofList (m.matched.toList.take (Regex.Spans.whole spans).start ++
        Expansion.expand ⟨m.matched.toList, spans, m.pattern.names⟩ replacement.toList ++
          m.matched.toList.drop (Regex.Spans.whole spans).stop) := by
  rw [substitute, hmatch]

/-- What it is for a text to be put in place of the first match in a matched text. -/
def Becomes (m : Captured) (spans : Regex.Spans) (replacement : String) (text : List Char) : Prop :=
  m.substitute replacement = String.ofList (m.matched.toList.take (Regex.Spans.whole spans).start ++
    text ++ m.matched.toList.drop (Regex.Spans.whole spans).stop)

/-- What it is for replacement strings to have one reading in a match of a matched text. -/
structure ReadsOneWay (m : Captured) (spans : Regex.Spans) : Prop where
  /-- There is a span, or none, for each group. -/
  length_eq : spans.length = m.pattern.groupCount
  /-- A string has exactly one reading; its parts make up the string, and their values one after the
  other are what it stands for. -/
  reading : ∀ replacement : String, ∃ parts,
    Reads m.pattern.groupCount m.pattern.names replacement.toList parts ∧
      (∀ other, Reads m.pattern.groupCount m.pattern.names replacement.toList other →
        other = parts) ∧
      parts.flatMap spelling = replacement.toList ∧
      m.Becomes spans replacement
        (parts.flatMap (value ⟨m.matched.toList, spans, m.pattern.names⟩))
  /-- With its dollar signs written twice, a text stands for itself. -/
  doubled : ∀ text : List Char, m.Becomes spans (String.ofList (doubled text)) text

/-- Replacement strings have one reading, from left to right. -/
theorem readsOneWay_of_matchFrom?
    (hmatch : m.pattern.matchFrom? m.matched.toList 0 = some spans) : m.ReadsOneWay spans where
  length_eq := Regex.length_of_matchFrom? hmatch
  reading replacement := by
    obtain ⟨parts, hparts⟩ :=
      exists_reads m.pattern.groupCount m.pattern.names replacement.toList
    refine ⟨parts, hparts, fun other hother => hparts.unique hother, hparts.spelled, ?_⟩
    rw [← Regex.length_of_matchFrom? hmatch] at hparts
    rw [Becomes, substitute_eq hmatch, Expansion.expand_of_reads hparts]
  doubled text := by
    have hparts := reads_doubled spans.length m.pattern.names text
    rw [Becomes, substitute_eq hmatch, String.toList_ofList, Expansion.expand_of_reads hparts,
      flatMap_value_ofDoubled]

end Captured

namespace ExpansionWitness

open ReplacementPart

/-- An expression with one group, which has a name. -/
def lettered : Regex :=
  ⟨"(?P<l>a)b", #[.save 0, .save 2, .set (.bands [⟨97, 97, 1⟩]), .save 3,
    .set (.bands [⟨98, 98, 1⟩]), .save 1, .accept], [none, some "l"]⟩

def captured : Captured := ⟨[some "ab", some "a"], lettered⟩

theorem matchFrom?_matched :
    captured.pattern.matchFrom? captured.matched.toList 0 = some [some ⟨0, 2⟩, some ⟨0, 1⟩] := by
  cbv

/-- There is no tenth group, so the number stands for the first group and a zero behind it. -/
theorem reads_tenth : Reads 2 [none, some "l"] ['$', '1', '0', '$', '<', 'l', '>', '$']
    [.oneDigit 1, .literal '0', .named ['l'], .literal '$'] := by
  have hfirst : Begins 2 [none, some "l"]
      ((oneDigit 1).spelling ++ ['0', '$', '<', 'l', '>', '$']) (.oneDigit 1) := by
    refine ⟨⟨by decide, by decide⟩, ⟨_, rfl⟩, ?_⟩
    rintro _ units ⟨⟩ htoken
    have hlt : 1 * 10 + units.val < 2 := htoken.2
    omega
  have hlast : ∀ part, ¬ Begins 2 [none, some "l"] ['$'] part := by
    intro part hbegins
    have hspelled := hbegins.spelled
    simp [spelling_eq hbegins.isToken] at hspelled
  have hname : Begins 2 [none, some "l"] ((named ['l']).spelling ++ ['$']) (.named ['l']) :=
    ⟨⟨⟨"l", by simp⟩, by decide⟩, ⟨_, rfl⟩, nofun⟩
  have hzero : ∀ part, ¬ Begins 2 [none, some "l"] ['0', '$', '<', 'l', '>', '$'] part :=
    fun part hbegins => absurd hbegins.eq_dollar (by decide)
  exact .token hfirst (.literal hzero (.token hname (.literal hlast .nil)))

theorem readsOneWay_lettered :
    captured.pattern.matchFrom? captured.matched.toList 0 = some [some ⟨0, 2⟩, some ⟨0, 1⟩] ∧
      captured.substitute "$10$<l>$" = "a0a$" ∧ captured.substitute "$$1" = "$1" := by
  have hreads := Captured.readsOneWay_of_matchFrom? matchFrom?_matched
  obtain ⟨parts, _, hunique, _, hbecomes⟩ := hreads.reading "$10$<l>$"
  have hparts := hunique _ reads_tenth
  rw [← hparts] at hbecomes
  exact ⟨matchFrom?_matched, hbecomes, hreads.doubled ['$', '1']⟩

end ExpansionWitness

end QuickFix
