import Mathlib.Data.List.TakeWhile
import QuickFix.Settings.Selector

/-!
Languages that a selector names. A selector lists parts with commas between them; each part is the
name of a language or nothing, with blanks around it. In brackets such a list is read as the names
in it. It is so without brackets too, unless its first part begins with a bracket and its last one
ends with one: these are taken for brackets around the list. Every selector is such a list, so
nothing but names of languages is read.
-/

namespace QuickFix

namespace Text

variable {cs front behind word rest : List Char} {c : Char}

/-- Whether a text has nothing but blanks. -/
def AllBlank (cs : List Char) : Prop := ∀ c ∈ cs, isBlank c = true

/-- Whether a text has no blanks at its ends. -/
structure Bare (cs : List Char) : Prop where
  head : ∀ c ∈ cs.head?, isBlank c = false
  last : ∀ c ∈ cs.getLast?, isBlank c = false

theorem bare_iff :
    Bare cs ↔ cs.head?.any isBlank = false ∧ cs.getLast?.any isBlank = false := by
  have hany : ∀ o : Option Char, o.any isBlank = false ↔ ∀ c ∈ o, isBlank c = false := by
    intro o
    cases o <;> simp
  rw [hany, hany]
  exact ⟨fun hcs => ⟨hcs.head, hcs.last⟩, fun ⟨hhead, hlast⟩ => ⟨hhead, hlast⟩⟩

instance (cs : List Char) : Decidable (AllBlank cs) :=
  decidable_of_iff (cs.all isBlank = true) List.all_eq_true

instance (cs : List Char) : Decidable (Bare cs) := decidable_of_iff _ bare_iff.symm

theorem AllBlank.reverse (hcs : AllBlank cs) : AllBlank cs.reverse := by
  intro c hc
  exact hcs c (List.mem_reverse.mp hc)

theorem AllBlank.append (hfront : AllBlank front) (hbehind : AllBlank behind) :
    AllBlank (front ++ behind) :=
  List.forall_mem_append.mpr ⟨hfront, hbehind⟩

theorem allBlank_nil : AllBlank [] := nofun

theorem allBlank_takeWhile (cs : List Char) : AllBlank (cs.takeWhile isBlank) := by
  intro c hc
  exact List.mem_takeWhile_imp hc

theorem AllBlank.not_mem (hcs : AllBlank cs) (hc : isBlank c = false) : c ∉ cs := by
  intro hmem
  rw [hcs c hmem] at hc
  cases hc

theorem Bare.reverse (hcs : Bare cs) : Bare cs.reverse where
  head := by
    rw [List.head?_reverse]
    exact hcs.last
  last := by
    rw [List.getLast?_reverse]
    exact hcs.head

theorem dropWhile_blanks (hfront : AllBlank front) (hne : cs ≠ [])
    (hhead : ∀ c ∈ cs.head?, isBlank c = false) (rest : List Char) :
    (front ++ (cs ++ rest)).dropWhile isBlank = cs ++ rest := by
  cases cs with
  | nil => exact absurd rfl hne
  | cons c cs =>
      have hc : isBlank c = false := hhead c rfl
      rw [List.dropWhile_append_of_pos hfront, List.cons_append,
        List.dropWhile_cons_of_neg (by simp [hc])]

/-- What is taken off a text are the blanks around it. -/
theorem trim_surround (hfront : AllBlank front) (hbehind : AllBlank behind) (hcs : Bare cs) :
    trim (front ++ cs ++ behind) = cs := by
  by_cases hempty : cs = []
  · have hblank : (front ++ behind).dropWhile isBlank = [] :=
      List.dropWhile_eq_nil_iff.mpr (hfront.append hbehind)
    rw [hempty, List.append_nil, trim, hblank]
    rfl
  · have hreverse : (behind.reverse ++ (cs.reverse ++ [])).dropWhile isBlank = cs.reverse ++ [] :=
      dropWhile_blanks hbehind.reverse (by simpa using hempty) hcs.reverse.head []
    rw [List.append_nil] at hreverse
    rw [trim, List.append_assoc, dropWhile_blanks hfront hempty hcs.head, List.reverse_append,
      hreverse, List.reverse_reverse]

/-- Every text is one without blanks at its ends, with blanks around it. -/
theorem exists_surround (cs : List Char) : ∃ front core behind,
    AllBlank front ∧ AllBlank behind ∧ Bare core ∧ cs = front ++ core ++ behind := by
  have hfront : cs.takeWhile isBlank ++ cs.dropWhile isBlank = cs :=
    List.takeWhile_append_dropWhile
  have hbehind : trim cs ++ ((cs.dropWhile isBlank).reverse.takeWhile isBlank).reverse =
      cs.dropWhile isBlank := by
    rw [trim, ← List.reverse_append, List.takeWhile_append_dropWhile, List.reverse_reverse]
  have hbare : Bare (trim cs) := by
    constructor
    · intro c hc
      have hhead := List.head?_dropWhile_not isBlank cs
      rw [← hbehind, List.head?_append, hc] at hhead
      exact hhead
    · intro c hc
      have hlast := List.head?_dropWhile_not isBlank (cs.dropWhile isBlank).reverse
      rw [trim, List.getLast?_reverse] at hc
      rw [hc] at hlast
      exact hlast
  refine ⟨_, trim cs, _, allBlank_takeWhile cs,
    (allBlank_takeWhile (cs.dropWhile isBlank).reverse).reverse, hbare, ?_⟩
  rw [List.append_assoc, hbehind, hfront]

theorem trim_blanks (hfront : AllBlank front) (hbehind : AllBlank behind) (cs : List Char) :
    trim (front ++ cs ++ behind) = trim cs := by
  obtain ⟨front', core, behind', hfront', hbehind', hcore, rfl⟩ := exists_surround cs
  have hsurround : front ++ (front' ++ core ++ behind') ++ behind =
      (front ++ front') ++ core ++ (behind' ++ behind) := by simp
  rw [hsurround, trim_surround (hfront.append hfront') (hbehind'.append hbehind) hcore,
    trim_surround hfront' hbehind' hcore]

theorem trim_reverse (cs : List Char) : trim cs.reverse = (trim cs).reverse := by
  obtain ⟨front, core, behind, hfront, hbehind, hcore, rfl⟩ := exists_surround cs
  rw [trim_surround hfront hbehind hcore, List.reverse_append, List.reverse_append,
    ← List.append_assoc, trim_surround hbehind.reverse hfront.reverse hcore.reverse]

/-- The first character that is no blank is the first one of what stands between blanks. -/
theorem find?_surround (hfront : AllBlank front) (hbehind : AllBlank behind) (hcs : Bare cs) :
    (front ++ cs ++ behind).find? (fun c => !isBlank c) = cs.head? := by
  have hnone : ∀ {blanks}, AllBlank blanks → blanks.find? (fun c => !isBlank c) = none := by
    intro blanks hblanks
    apply List.find?_eq_none.mpr
    intro c hc
    simp [hblanks c hc]
  rw [List.find?_append, List.find?_append, hnone hfront, hnone hbehind, Option.or_none,
    Option.none_or]
  cases cs with
  | nil => rfl
  | cons c rest =>
      have hc : isBlank c = false := hcs.head c rfl
      simp [hc]

theorem head?_trim (cs : List Char) : (trim cs).head? = cs.find? fun c => !isBlank c := by
  obtain ⟨front, core, behind, hfront, hbehind, hcore, rfl⟩ := exists_surround cs
  rw [trim_surround hfront hbehind hcore, find?_surround hfront hbehind hcore]

/-- A text begins with the mark that its first part begins with. -/
theorem head?_trim_append (hfront : AllBlank front) (hbehind : AllBlank behind) (hword : Bare word)
    (hrest : ∀ d ∈ rest.head?, isBlank d = false ∧ d ≠ c) :
    (trim (front ++ word ++ behind ++ rest)).head? = some c ↔ word.head? = some c := by
  have hrest' : rest.find? (fun d => !isBlank d) ≠ some c := by
    cases rest with
    | nil => simp
    | cons d rest =>
        obtain ⟨hblank, hd⟩ := hrest d rfl
        simp [hblank, hd]
  rw [head?_trim, List.find?_append, find?_surround hfront hbehind hword, Option.or_eq_some_iff]
  simp [hrest']

/-- A text ends with the mark that its last part ends with. -/
theorem getLast?_trim_append (hfront : AllBlank front) (hbehind : AllBlank behind)
    (hword : Bare word) (hrest : ∀ d ∈ rest.getLast?, isBlank d = false ∧ d ≠ c) :
    (trim (rest ++ (front ++ word ++ behind))).getLast? = some c ↔ word.getLast? = some c := by
  rw [← List.head?_reverse, ← List.head?_reverse, ← trim_reverse]
  have hreverse : (rest ++ (front ++ word ++ behind)).reverse =
      behind.reverse ++ word.reverse ++ front.reverse ++ rest.reverse := by
    simp
  rw [hreverse]
  apply head?_trim_append hbehind.reverse hfront.reverse hword.reverse
  rwa [List.head?_reverse]

theorem count_trim (hc : isBlank c = false) (cs : List Char) : (trim cs).count c = cs.count c := by
  obtain ⟨front, core, behind, hfront, hbehind, hcore, rfl⟩ := exists_surround cs
  rw [trim_surround hfront hbehind hcore, List.count_append, List.count_append,
    List.count_eq_zero.mpr (hfront.not_mem hc), List.count_eq_zero.mpr (hbehind.not_mem hc),
    Nat.zero_add, Nat.add_zero]

end Text

namespace Selector

open Text

variable {cs front behind x : List Char} {name key : String}

/-- What is read between the commas of a list. -/
def reading (cs : List Char) : List (List Char) :=
  ((cs.splitOn ',').map trim).filter (· ≠ [])

theorem reading_append (x y : List Char) : reading (x ++ ',' :: y) = reading x ++ reading y := by
  simp only [reading, List.splitOn_append_cons_self, List.map_append, List.filter_append]

theorem reading_of_no_comma (hx : ',' ∉ x) :
    reading x = if trim x = [] then [] else [trim x] := by
  rw [reading, List.splitOn_eq_singleton hx, List.map_singleton]
  by_cases hempty : trim x = []
  · rw [if_pos hempty, hempty]
    rfl
  · rw [if_neg hempty]
    exact List.filter_cons_of_pos (by simpa using hempty)

/-- Induction over the commas of a list. -/
@[elab_as_elim]
theorem comma_induction {motive : List Char → Prop} (last : ∀ x, ',' ∉ x → motive x)
    (more : ∀ x y, ',' ∉ x → motive y → motive (x ++ ',' :: y)) (cs : List Char) : motive cs := by
  by_cases hcomma : ',' ∈ cs
  · obtain ⟨x, y, hcs, hx⟩ := List.eq_append_cons_of_mem hcomma
    have hshorter : y.length < cs.length := by
      rw [hcs, List.length_append, List.length_cons]
      omega
    rw [hcs]
    exact more x y hx (comma_induction last more y)
  · exact last cs hcomma
termination_by cs.length

theorem comma_not_mem (hcs : AllBlank cs) : ',' ∉ cs := hcs.not_mem (by decide)

theorem reading_blanks (hfront : AllBlank front) (hbehind : AllBlank behind) (cs : List Char) :
    reading (front ++ cs ++ behind) = reading cs := by
  induction cs using comma_induction generalizing front with
  | last x hx =>
      have hcomma : ',' ∉ front ++ x ++ behind := by
        simp [comma_not_mem hfront, comma_not_mem hbehind, hx]
      rw [reading_of_no_comma hcomma, reading_of_no_comma hx, trim_blanks hfront hbehind]
  | more x y hx ih =>
      have hcomma : ',' ∉ front ++ x ++ [] := by simp [comma_not_mem hfront, hx]
      have hcs : front ++ (x ++ ',' :: y) ++ behind =
          (front ++ x ++ []) ++ ',' :: ([] ++ y ++ behind) := by simp
      rw [hcs, reading_append, reading_append, ih allBlank_nil, reading_of_no_comma hcomma,
        reading_of_no_comma hx, trim_blanks hfront allBlank_nil]

theorem reading_trim (cs : List Char) : reading (trim cs) = reading cs := by
  obtain ⟨front, core, behind, hfront, hbehind, hcore, rfl⟩ := exists_surround cs
  rw [trim_surround hfront hbehind hcore, reading_blanks hfront hbehind]

theorem count_flatten_reading_of_no_comma (hx : ',' ∉ x) :
    (reading x).flatten.count '[' = x.count '[' := by
  rw [reading_of_no_comma hx, ← count_trim (by decide) x]
  split
  · rename_i hempty
    rw [hempty]
    rfl
  · rw [List.flatten_singleton]

/-- Nothing but blanks and commas is left out, so no bracket is. -/
theorem count_flatten_reading (cs : List Char) : (reading cs).flatten.count '[' = cs.count '[' := by
  induction cs using comma_induction with
  | last x hx => exact count_flatten_reading_of_no_comma hx
  | more x y hx ih =>
      rw [reading_append, List.flatten_append, List.count_append, List.count_append, ih,
        count_flatten_reading_of_no_comma hx, List.count_cons_of_ne (by decide)]

/-- What it is for a text to be the name of a language. -/
structure IsName (name : String) : Prop where
  ne_empty : name ≠ ""
  comma : ',' ∉ name.toList
  bare : Bare name.toList

instance (name : String) : Decidable (IsName name) :=
  decidable_of_iff (name ≠ "" ∧ ',' ∉ name.toList ∧ Bare name.toList)
    ⟨fun ⟨hne, hcomma, hbare⟩ => ⟨hne, hcomma, hbare⟩,
      fun ⟨hne, hcomma, hbare⟩ => ⟨hne, hcomma, hbare⟩⟩

/-- A part of a list: a name or nothing, with blanks around it. -/
structure Part where
  front : List Char
  name? : Option String
  behind : List Char
  front_blank : AllBlank front
  behind_blank : AllBlank behind
  isName : ∀ name ∈ name?, IsName name

namespace Part

/-- The characters of the name. -/
def word (p : Part) : List Char := (p.name?.getD "").toList

def text (p : Part) : List Char := p.front ++ p.word ++ p.behind

theorem bare_word (p : Part) : Bare p.word := by
  rw [word]
  cases hname : p.name? with
  | none => exact ⟨nofun, nofun⟩
  | some name => exact (p.isName name hname).bare

theorem comma_not_mem_text (p : Part) : ',' ∉ p.text := by
  have hword : ',' ∉ p.word := by
    rw [word]
    cases hname : p.name? with
    | none => exact List.not_mem_nil
    | some name => exact (p.isName name hname).comma
  simp [text, comma_not_mem p.front_blank, comma_not_mem p.behind_blank, hword]

theorem reading_text (p : Part) : reading p.text = p.name?.toList.map String.toList := by
  rw [reading_of_no_comma p.comma_not_mem_text, text,
    trim_surround p.front_blank p.behind_blank p.bare_word, word]
  cases hname : p.name? with
  | none => rfl
  | some name =>
      have hne : name.toList ≠ [] := by simpa using (p.isName name hname).ne_empty
      exact if_neg hne

end Part

theorem exists_part (hx : ',' ∉ x) : ∃ p : Part, p.text = x := by
  obtain ⟨front, core, behind, hfront, hbehind, hcore, rfl⟩ := exists_surround x
  by_cases hempty : core = []
  · refine ⟨⟨front, none, behind, hfront, hbehind, nofun⟩, ?_⟩
    rw [hempty]
    rfl
  · have hname : IsName (String.ofList core) := by
      refine ⟨by simpa using hempty, ?_, ?_⟩
      · rw [String.toList_ofList]
        intro hcomma
        exact hx (List.mem_append_left _ (List.mem_append_right _ hcomma))
      · rwa [String.toList_ofList]
    refine ⟨⟨front, some (String.ofList core), behind, hfront, hbehind, ?_⟩, ?_⟩
    · rintro _ ⟨⟩
      exact hname
    · simp [Part.text, Part.word]

/-- The names in some parts. -/
def listed (parts : List Part) : List String := parts.filterMap Part.name?

/-- Some parts with commas between them. -/
def written (parts : List Part) : List Char := [','].intercalate (parts.map Part.text)

theorem written_singleton (p : Part) : written [p] = p.text := List.intercalate_singleton

theorem written_cons {parts : List Part} (hparts : parts ≠ []) (p : Part) :
    written (p :: parts) = p.text ++ ',' :: written parts := by
  have hne : parts.map Part.text ≠ [] := by simpa using hparts
  rw [written, List.map_cons, List.intercalate_cons_of_ne_nil hne, List.append_assoc]
  rfl

theorem written_concat {parts : List Part} (hparts : parts ≠ []) (p : Part) :
    written (parts ++ [p]) = written parts ++ [','] ++ p.text := by
  induction parts with
  | nil => exact absurd rfl hparts
  | cons first rest ih =>
      by_cases hrest : rest = []
      · simp [hrest, written_cons, written_singleton]
      · rw [List.cons_append, written_cons (by simp), ih hrest, written_cons hrest]
        simp

/-- A list is read as the names in it. -/
theorem reading_written (parts : List Part) :
    reading (written parts) = (listed parts).map String.toList := by
  induction parts with
  | nil => rfl
  | cons p rest ih =>
      have hlisted : listed (p :: rest) = p.name?.toList ++ listed rest := by
        cases hname : p.name? <;> simp [listed, hname]
      rw [hlisted, List.map_append, ← ih, ← p.reading_text]
      by_cases hrest : rest = []
      · rw [hrest, written_singleton]
        exact (List.append_nil _).symm
      · rw [written_cons hrest, reading_append]

/-- Every text is a list. -/
theorem exists_written (cs : List Char) : ∃ parts, parts ≠ [] ∧ written parts = cs := by
  induction cs using comma_induction with
  | last x hx =>
      obtain ⟨p, hp⟩ := exists_part hx
      exact ⟨[p], List.cons_ne_nil p [], by rw [written_singleton, hp]⟩
  | more x y hx ih =>
      obtain ⟨p, hp⟩ := exists_part hx
      obtain ⟨parts, hparts, hwritten⟩ := ih
      exact ⟨p :: parts, List.cons_ne_nil p parts, by rw [written_cons hparts, hp, hwritten]⟩

/-- Whether a text begins with a bracket and ends with one. -/
def InBrackets (cs : List Char) : Prop := cs.head? = some '[' ∧ cs.getLast? = some ']'

theorem inBrackets_brackets (inner : List Char) : InBrackets ('[' :: inner ++ [']']) :=
  ⟨rfl, List.getLast?_concat⟩

theorem InBrackets.bare (hcs : InBrackets cs) : Bare cs := by
  obtain ⟨hhead, hlast⟩ := hcs
  rw [bare_iff, hhead, hlast]
  decide

theorem InBrackets.exists_inner (hcs : InBrackets cs) : ∃ inner, cs = '[' :: inner ++ [']'] := by
  obtain ⟨hhead, hlast⟩ := hcs
  obtain ⟨lead, rfl⟩ := List.getLast?_eq_some_iff.mp hlast
  cases lead with
  | nil => exact absurd hhead (by decide)
  | cons c inner =>
      obtain rfl : c = '[' := Option.some.inj hhead
      exact ⟨inner, rfl⟩

theorem unbracket_brackets (inner : List Char) : unbracket ('[' :: inner ++ [']']) = inner := by
  simp [unbracket]

/-- A bracket without the other one is kept. -/
theorem unbracket_of_not_inBrackets (hcs : ¬ InBrackets cs) : unbracket cs = cs := by
  unfold unbracket
  split
  · rename_i rest
    split
    · rename_i hlast
      refine absurd ⟨rfl, ?_⟩ hcs
      rw [List.getLast?_cons, hlast]
      rfl
    · rfl
  · rfl

/-- Whether the first part begins with a bracket and the last one ends with one. -/
def LooksBracketed (parts : List Part) : Prop :=
  (∃ p ∈ parts.head?, p.word.head? = some '[') ∧ ∃ p ∈ parts.getLast?, p.word.getLast? = some ']'

theorem head?_trim_written (parts : List Part) : (trim (written parts)).head? = some '[' ↔
    ∃ p ∈ parts.head?, p.word.head? = some '[' := by
  cases parts with
  | nil => simp [written, trim]
  | cons p rest =>
      have hfirst : (trim (written (p :: rest))).head? = some '[' ↔ p.word.head? = some '[' := by
        by_cases hrest : rest = []
        · rw [hrest, written_singleton, ← List.append_nil p.text]
          exact head?_trim_append p.front_blank p.behind_blank p.bare_word nofun
        · rw [written_cons hrest]
          apply head?_trim_append p.front_blank p.behind_blank p.bare_word
          rintro _ ⟨⟩
          decide
      simpa using hfirst

theorem getLast?_trim_written (parts : List Part) : (trim (written parts)).getLast? = some ']' ↔
    ∃ p ∈ parts.getLast?, p.word.getLast? = some ']' := by
  rcases List.eq_nil_or_concat parts with rfl | ⟨lead, p, hparts⟩
  · simp [written, trim]
  · rw [List.concat_eq_append] at hparts
    have hlast : (trim (written (lead ++ [p]))).getLast? = some ']' ↔
        p.word.getLast? = some ']' := by
      by_cases hlead : lead = []
      · rw [hlead, List.nil_append, written_singleton, ← List.nil_append p.text]
        exact getLast?_trim_append p.front_blank p.behind_blank p.bare_word nofun
      · rw [written_concat hlead]
        apply getLast?_trim_append p.front_blank p.behind_blank p.bare_word
        rw [List.getLast?_concat]
        rintro _ ⟨⟩
        decide
    rw [hparts, hlast, List.getLast?_concat]
    simp

theorem inBrackets_trim_written (parts : List Part) :
    InBrackets (trim (written parts)) ↔ LooksBracketed parts :=
  and_congr (head?_trim_written parts) (getLast?_trim_written parts)

theorem languages_eq (key : String) :
    languages key = (reading (unbracket (trim key.toList))).map String.ofList := rfl

/-- Some parts in brackets, with blanks around these. -/
def bracketed (front : List Char) (parts : List Part) (behind : List Char) : String :=
  String.ofList (front ++ ('[' :: written parts ++ [']']) ++ behind)

/-- Some parts without brackets. -/
def plain (parts : List Part) : String := String.ofList (written parts)

theorem languages_bracketed (hfront : AllBlank front) (hbehind : AllBlank behind)
    (parts : List Part) : languages (bracketed front parts behind) = listed parts := by
  rw [languages_eq, bracketed, String.toList_ofList,
    trim_surround hfront hbehind (inBrackets_brackets _).bare, unbracket_brackets, reading_written]
  simp

/-- Without brackets the names are read unless the names themselves look like a list in brackets;
then a bracket of theirs is lost. -/
theorem languages_plain_iff (parts : List Part) :
    languages (plain parts) = listed parts ↔ ¬ LooksBracketed parts := by
  rw [languages_eq, plain, String.toList_ofList, ← inBrackets_trim_written]
  constructor
  · intro heq hbrackets
    obtain ⟨inner, hinner⟩ := hbrackets.exists_inner
    have hreading : reading inner = reading (written parts) := by
      rw [hinner, unbracket_brackets] at heq
      rw [reading_written, ← heq]
      simp
    have hcount : (reading inner).flatten.count '[' = ('[' :: inner ++ [']']).count '[' := by
      rw [hreading, count_flatten_reading, ← hinner, count_trim (by decide)]
    rw [count_flatten_reading] at hcount
    simp at hcount
  · intro hbrackets
    rw [unbracket_of_not_inBrackets hbrackets, reading_trim, reading_written]
    simp

example : languages "[c, ,cpp," = ["[c", "cpp"] := by decide

/-- The ways to list some parts in a selector. -/
inductive Lists : String → List Part → Prop
  | bracketed {front behind : List Char} (hfront : AllBlank front) (hbehind : AllBlank behind)
      (parts : List Part) : Lists (bracketed front parts behind) parts
  | plain {parts : List Part} (hlooks : ¬ LooksBracketed parts) : Lists (plain parts) parts

theorem Lists.languages_eq {parts : List Part} (hlists : Lists key parts) :
    languages key = listed parts := by
  cases hlists with
  | bracketed hfront hbehind => exact languages_bracketed hfront hbehind parts
  | plain hlooks => exact (languages_plain_iff parts).mpr hlooks

/-- Every selector lists some parts. -/
theorem exists_lists (key : String) : ∃ parts, Lists key parts := by
  by_cases hbrackets : InBrackets (trim key.toList)
  · obtain ⟨front, core, behind, hfront, hbehind, hcore, hkey⟩ := exists_surround key.toList
    rw [hkey, trim_surround hfront hbehind hcore] at hbrackets
    obtain ⟨inner, rfl⟩ := hbrackets.exists_inner
    obtain ⟨parts, -, rfl⟩ := exists_written inner
    obtain rfl : key = bracketed front parts behind := by
      rw [bracketed, ← hkey, String.ofList_toList]
    exact ⟨parts, .bracketed hfront hbehind parts⟩
  · obtain ⟨parts, -, hkey⟩ := exists_written key.toList
    rw [← hkey, inBrackets_trim_written] at hbrackets
    obtain rfl : key = plain parts := by
      rw [plain, hkey, String.ofList_toList]
    exact ⟨parts, .plain hbrackets⟩

theorem isName_of_mem_listed {parts : List Part} (hname : name ∈ listed parts) : IsName name := by
  obtain ⟨p, -, hp⟩ := List.mem_filterMap.mp hname
  exact p.isName name hp

/-- What it is for some parts to be read back. -/
structure ReadsBack (parts : List Part) : Prop where
  /-- In brackets they are read as the names in them. -/
  bracketed : ∀ front behind, AllBlank front → AllBlank behind →
    languages (bracketed front parts behind) = listed parts
  /-- So are they without brackets if and only if they do not look as if they stood in some. -/
  plain_iff : languages (plain parts) = listed parts ↔ ¬ LooksBracketed parts

/-- Lists of names are read back, and nothing but names is read from any selector. -/
theorem readsBack_and_isName (parts : List Part) (key : String) :
    ReadsBack parts ∧ ∀ name ∈ languages key, IsName name := by
  refine ⟨⟨fun front behind hfront hbehind => languages_bracketed hfront hbehind parts,
    languages_plain_iff parts⟩, ?_⟩
  intro name hname
  obtain ⟨others, hlists⟩ := exists_lists key
  rw [hlists.languages_eq] at hname
  exact isName_of_mem_listed hname

end Selector

namespace SelectorWitness

open Text Selector

def opening : Part := ⟨[], some "[a", [], by decide, by decide, by decide⟩

def closing : Part := ⟨[], some "b]", [' '], by decide, by decide, by decide⟩

/-- A part without a name. -/
def gap : Part := ⟨['\t'], none, [], by decide, by decide, by decide⟩

/-- Names that begin and end with brackets are taken for a list in brackets, unless they stand in
brackets themselves or a part without a name is the last one. -/
theorem languages_nested :
    languages " [[a,\t,b] ]" = ["[a", "b]"] ∧ languages "[a,b] ,\t" = ["[a", "b]"] ∧
      languages "[a,\t,b] " ≠ ["[a", "b]"] ∧ ∀ name ∈ languages "[a,\t,b] ", IsName name := by
  obtain ⟨hread, hnames⟩ := readsBack_and_isName [opening, gap, closing] "[a,\t,b] "
  obtain ⟨hread', -⟩ := readsBack_and_isName [opening, closing, gap] ""
  refine ⟨hread.bracketed [' '] [] (by decide) (by decide), ?_, ?_, hnames⟩
  · apply hread'.plain_iff.mpr
    rintro ⟨-, p, ⟨⟩, hlast⟩
    cases hlast
  · intro heq
    exact hread.plain_iff.mp heq ⟨⟨opening, rfl, rfl⟩, closing, rfl, rfl⟩

end SelectorWitness

end QuickFix
