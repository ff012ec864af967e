import Mathlib.Data.List.Basic
import QuickFix.Proofs.WellFormed
import QuickFix.Template.Basic

/-!
Rendering at once. A template is filled in several passes, one for each family of placeholders and
one for each file variable. As long as no value brings in what a later pass would read, the passes
come to one: each placeholder and each variable is replaced by its own value, and nothing else is
touched.
-/

namespace QuickFix

namespace Text

/-- Whether a pass leaves a text as it is, whatever stands behind it. -/
def Keeps (token? : TokenReader) (cs : List Char) : Prop :=
  ∀ rest, rewrite token? (cs ++ rest) = cs ++ rewrite token? rest

variable {token? : TokenReader}

theorem keeps_nil (token? : TokenReader) : Keeps token? [] := fun _ => rfl

theorem Keeps.cons {c : Char} {cs : List Char} (hkeeps : Keeps token? cs)
    (hnone : ∀ rest, token? (c :: cs ++ rest) = none) : Keeps token? (c :: cs) := by
  intro rest
  have hfirst := hnone rest
  rw [List.cons_append] at hfirst ⊢
  rw [rewrite_cons_of_none token? hfirst, hkeeps rest, List.cons_append]

theorem Keeps.append {cs cs' : List Char} (hfirst : Keeps token? cs) (hsecond : Keeps token? cs') :
    Keeps token? (cs ++ cs') := by
  intro rest
  rw [List.append_assoc, hfirst, hsecond, List.append_assoc]

/-- A pass rewrites parts one by one if it does so to each of them, whatever stands behind it. -/
theorem rewrite_flatMap {α : Type} {parts : List α} {before after : α → List Char}
    (hparts : ∀ p ∈ parts, ∀ rest,
      rewrite token? (before p ++ rest) = after p ++ rewrite token? rest) :
    rewrite token? (parts.flatMap before) = parts.flatMap after := by
  induction parts with
  | nil => rfl
  | cons p rest ih =>
      obtain ⟨hp, hrest⟩ := List.forall_mem_cons.mp hparts
      rw [List.flatMap_cons, List.flatMap_cons, hp, ih hrest]

/-- What stands at the start of a text with a mark is part of what comes before the mark, or it is
the mark. -/
theorem mem_or_eq_of_append_mark {mark c : Char} {cs rest rest' : List Char}
    (heq : cs ++ mark :: rest = c :: rest') : c ∈ cs ∨ c = mark := by
  cases cs with
  | nil => exact .inr (List.cons.inj heq).1.symm
  | cons c' cs => exact .inl ((List.cons.inj heq).1 ▸ List.mem_cons_self)

/-- Whether all that a pass reads begins with some character and an opening brace behind it. -/
def OpensWith (token? : TokenReader) (first : Char) : Prop :=
  ∀ cs, token? cs ≠ none → ∃ rest, cs = first :: '\x7b' :: rest

namespace OpensWith

variable {first c : Char} {cs : List Char} (hopens : OpensWith token? first)
include hopens

theorem eq_none_of_ne (hc : c ≠ first) : token? (c :: cs) = none := by
  by_contra hread
  obtain ⟨rest, heq⟩ := hopens _ hread
  exact hc (List.cons.inj heq).1

theorem eq_none_of_not_mem {mark : Char} {rest : List Char} (hcs : '\x7b' ∉ cs)
    (hmark : mark ≠ '\x7b') : token? (c :: (cs ++ mark :: rest)) = none := by
  by_contra hread
  obtain ⟨rest', heq⟩ := hopens _ hread
  rcases mem_or_eq_of_append_mark (List.cons.inj heq).2 with hmem | hbrace
  · exact hcs hmem
  · exact hmark hbrace.symm

/-- A pass keeps a text without the character that all it reads begins with. -/
theorem keeps (hmem : first ∉ cs) : Keeps token? cs := by
  induction cs with
  | nil => exact keeps_nil token?
  | cons c cs ih =>
      rw [List.mem_cons, not_or] at hmem
      exact (ih hmem.2).cons fun rest => hopens.eq_none_of_ne (Ne.symm hmem.1)

end OpensWith

end Text

namespace Template

/-- The families of placeholders. -/
inductive Family where
  | diagnostic
  | diagnosticLookup
  | cursor
  | lookup
  deriving DecidableEq, Repr

/-- The name of a family in a placeholder. -/
def Family.label : Family → String
  | diagnostic => "diag"
  | diagnosticLookup => "diagLookup"
  | cursor => "atCursor"
  | lookup => "lookup"

/-- The variables of a file. -/
inductive FileVariable where
  | stem
  | name
  | extension
  | directory
  deriving DecidableEq, Repr

namespace FileVariable

/-- The name of a variable. -/
def label : FileVariable → String
  | stem => "fileBasenameNoExtension"
  | name => "fileBasename"
  | extension => "fileExtname"
  | directory => "fileDirname"

/-- The value of a variable. -/
def read (file : FileVariables) : FileVariable → List Char
  | stem => file.stem.toList
  | name => file.name.toList
  | extension => file.extension.toList
  | directory => file.directory.toList

/-- How a variable is written. -/
def spelling (v : FileVariable) : List Char := '$' :: '\x7b' :: v.label.toList ++ ['\x7d']

end FileVariable

/-- One pass over a template: a family of placeholders is filled, or a variable of the file. -/
inductive Pass where
  | family (f : Family)
  | file (v : FileVariable)
  deriving DecidableEq, Repr

namespace Pass

/-- The passes in their order. -/
def all : List Pass := [
  family .diagnostic, family .diagnosticLookup, family .cursor, family .lookup,
  file .stem, file .name, file .extension, file .directory]

/-- The character that whatever a pass reads begins with. -/
def first : Pass → Char
  | family _ => '\x7b'
  | file _ => '$'

/-- Whether a value of a pass holds nothing that a later pass might read. Behind the lookup table
only the variables of the file are filled, so a text of that table may hold braces. -/
def Admits : Pass → List Char → Prop
  | family .lookup, value => '$' ∉ value
  | family _, value => '\x7b' ∉ value ∧ '$' ∉ value
  | file _, value => '$' ∉ value

end Pass

/-- A part of a template. -/
inductive Segment where
  | literal (cs : List Char)
  | placeholder (family : Family) (argument : List Char)
  | file (v : FileVariable)
  deriving DecidableEq, Repr

namespace Segment

/-- How a part is written. -/
def spelling : Segment → List Char
  | literal cs => cs
  | placeholder family argument =>
    opening ++ family.label.toList ++ ':' :: argument ++ ['\x7d', '\x7d']
  | file v => v.spelling

/-- The pass that fills a part. -/
def pass? : Segment → Option Pass
  | literal _ => none
  | placeholder family _ => some (.family family)
  | file v => some (.file v)

/-- Whether literal text opens neither a placeholder nor a variable, and the argument of a
placeholder ends where the placeholder does. -/
def WellFormed : Segment → Prop
  | literal cs => '\x7b' ∉ cs ∧ '$' ∉ cs
  | placeholder _ argument => '\x7b' ∉ argument ∧ '\x7d' ∉ argument ∧ '\n' ∉ argument
  | file _ => True

end Segment

theorem Family.label_facts (family : Family) :
    ':' ∉ family.label.toList ∧ '\x7b' ∉ family.label.toList ∧ '$' ∉ family.label.toList := by
  cases family <;> decide

theorem FileVariable.label_facts (v : FileVariable) :
    '\x7b' ∉ v.label.toList ∧ '\x7d' ∉ v.label.toList ∧ '$' ∉ v.label.toList := by
  cases v <;> decide

theorem Family.label_injective {a b : Family} (heq : a.label.toList = b.label.toList) : a = b := by
  revert heq
  cases a <;> cases b <;> decide

theorem FileVariable.label_injective {a b : FileVariable}
    (heq : a.label.toList = b.label.toList) : a = b := by
  revert heq
  cases a <;> cases b <;> decide

theorem Pass.mem_all (p : Pass) : p ∈ Pass.all := by
  cases p with
  | family f => cases f <;> decide
  | file v => cases v <;> decide

/-- A value of a pass is nothing to the passes behind it. -/
theorem Pass.Admits.first_not_mem {earlier later : Pass} {value : List Char}
    (hadmits : earlier.Admits value) (horder : [earlier, later].Sublist Pass.all) :
    later.first ∉ value := by
  have hfiles : ∀ v g, ¬ [Pass.file v, Pass.family g].Sublist Pass.all := by
    intro v g
    cases v <;> cases g <;> decide
  have hlookup : ∀ g, ¬ [Pass.family .lookup, Pass.family g].Sublist Pass.all := by
    intro g
    cases g <;> decide
  cases later with
  | family g =>
      cases earlier with
      | family f =>
          cases f with
          | lookup => exact absurd horder (hlookup g)
          | _ => exact hadmits.1
      | file v => exact absurd horder (hfiles v g)
  | file v =>
      cases earlier with
      | family f =>
          cases f with
          | lookup => exact hadmits
          | _ => exact hadmits.2
      | file v => exact hadmits

/-- The argument of a placeholder ends at the first two closing braces. -/
theorem argument?_append {argument : List Char} (hbrace : '\x7d' ∉ argument)
    (hline : '\n' ∉ argument) (rest : List Char) :
    argument? (argument ++ '\x7d' :: '\x7d' :: rest) = some argument := by
  induction argument with
  | nil => rfl
  | cons c cs ih =>
      rw [List.mem_cons, not_or] at hbrace hline
      rw [List.cons_append, argument?, if_neg (Ne.symm hline.1), ih hbrace.2 hline.2,
        Option.map_some]
      exact fun _ hc _ => hbrace.1 hc.symm

section Placeholder

variable {family : Family} {value : List Char → List Char}

theorem placeholder_eq_none {cs : List Char}
    (hne : ∀ rest, cs ≠ opening ++ family.label.toList ++ ':' :: rest) :
    placeholder family.label value cs = none := by
  have hnone : Text.dropPrefix? (opening ++ family.label.toList ++ [':']) cs = none := by
    rw [Option.eq_none_iff_forall_ne_some]
    intro rest hrest
    rw [Text.dropPrefix?_eq_some_iff, List.append_assoc] at hrest
    exact hne rest hrest
  simp only [placeholder, hnone]

theorem placeholder_opensWith : Text.OpensWith (placeholder family.label value) '\x7b' := by
  intro cs hread
  by_contra hne
  exact hread (placeholder_eq_none fun rest heq => hne ⟨_, heq⟩)

theorem keeps_other_placeholder {other : Family} (hne : other ≠ family) {argument : List Char}
    (hargument : '\x7b' ∉ argument) :
    Text.Keeps (placeholder family.label value) (Segment.placeholder other argument).spelling := by
  obtain ⟨hcolon, hlabel, -⟩ := other.label_facts
  have htail : '\x7b' ∉ other.label.toList ++ (':' :: argument ++ ['\x7d', '\x7d']) := by
    simp [hlabel, hargument]
  have hspelling : (Segment.placeholder other argument).spelling =
      '\x7b' :: '\x7b' :: (other.label.toList ++ (':' :: argument ++ ['\x7d', '\x7d'])) := by
    simp [Segment.spelling, opening]
  rw [hspelling]
  refine ((placeholder_opensWith.keeps htail).cons fun rest => ?_).cons fun rest => ?_
  · rw [List.cons_append, List.append_assoc]
    exact placeholder_opensWith.eq_none_of_not_mem hlabel (by decide)
  · refine placeholder_eq_none fun rest' heq => hne (Family.label_injective ?_)
    have hlabels : other.label.toList ++ ':' :: (argument ++ '\x7d' :: '\x7d' :: rest) =
        family.label.toList ++ ':' :: rest' := by simpa [opening] using heq
    exact Text.eq_of_append_mark hcolon family.label_facts.1 hlabels

theorem keeps_variable (v : FileVariable) :
    Text.Keeps (placeholder family.label value) v.spelling := by
  obtain ⟨hlabel, -, -⟩ := v.label_facts
  have htail : '\x7b' ∉ v.label.toList ++ ['\x7d'] := by simp [hlabel]
  refine ((placeholder_opensWith.keeps htail).cons fun rest => ?_).cons fun rest => ?_
  · rw [List.cons_append, List.append_assoc]
    exact placeholder_opensWith.eq_none_of_not_mem hlabel (by decide)
  · exact placeholder_opensWith.eq_none_of_ne (by decide)

theorem rewrite_placeholder {argument : List Char} (hbrace : '\x7d' ∉ argument)
    (hline : '\n' ∉ argument) (rest : List Char) :
    Text.rewrite (placeholder family.label value)
        ((Segment.placeholder family argument).spelling ++ rest) =
      value argument ++ Text.rewrite (placeholder family.label value) rest := by
  refine Text.rewrite_token _ (by simp [Segment.spelling, opening]) ?_
  have hhead : Text.dropPrefix? (opening ++ family.label.toList ++ [':'])
      ((Segment.placeholder family argument).spelling ++ rest) =
        some (argument ++ '\x7d' :: '\x7d' :: rest) := by
    rw [Text.dropPrefix?_eq_some_iff]
    simp [Segment.spelling]
  simp only [placeholder, hhead, argument?_append hbrace hline, Option.map_some]
  simp [Segment.spelling]
  omega

end Placeholder

section Variable

variable {v : FileVariable} {value : List Char}

theorem wordToken_eq_none {word cs : List Char} (hne : ∀ rest, cs ≠ word ++ rest) :
    Text.wordToken word value cs = none := by
  rw [Text.wordToken, Option.map_eq_none_iff, Option.eq_none_iff_forall_ne_some]
  exact fun rest hrest => hne rest (Text.dropPrefix?_eq_some_iff.mp hrest)

theorem wordToken_opensWith : Text.OpensWith (Text.wordToken v.spelling value) '$' := by
  intro cs hread
  by_contra hne
  exact hread (wordToken_eq_none fun rest heq => hne ⟨_, heq⟩)

/-- A text without an opening brace holds no variable, and if it ends in a closing brace it does not
begin one either. -/
theorem keeps_closed {cs : List Char} (hcs : '\x7b' ∉ cs) :
    Text.Keeps (Text.wordToken v.spelling value) (cs ++ ['\x7d']) := by
  induction cs with
  | nil => exact wordToken_opensWith.keeps (by decide)
  | cons c cs ih =>
      rw [List.mem_cons, not_or] at hcs
      refine (ih hcs.2).cons fun rest => ?_
      rw [List.cons_append, List.append_assoc]
      exact wordToken_opensWith.eq_none_of_not_mem hcs.2 (by decide)

theorem keeps_placeholder (family : Family) {argument : List Char}
    (hargument : '\x7b' ∉ argument) :
    Text.Keeps (Text.wordToken v.spelling value)
      (Segment.placeholder family argument).spelling := by
  have hbody : '\x7b' ∉ family.label.toList ++ ':' :: argument ++ ['\x7d'] := by
    simp [family.label_facts.2.1, hargument]
  have hspelling : (Segment.placeholder family argument).spelling =
      opening ++ ((family.label.toList ++ ':' :: argument ++ ['\x7d']) ++ ['\x7d']) := by
    simp [Segment.spelling]
  rw [hspelling]
  exact (wordToken_opensWith.keeps (by decide)).append (keeps_closed hbody)

theorem keeps_other_variable {other : FileVariable} (hne : other ≠ v) :
    Text.Keeps (Text.wordToken v.spelling value) other.spelling := by
  obtain ⟨-, hbrace, hdollar⟩ := other.label_facts
  have htail : '$' ∉ '\x7b' :: other.label.toList ++ ['\x7d'] := by simp [hdollar]
  refine (wordToken_opensWith.keeps htail).cons fun rest => ?_
  refine wordToken_eq_none fun rest' heq => hne (FileVariable.label_injective ?_)
  have hlabels : other.label.toList ++ '\x7d' :: rest = v.label.toList ++ '\x7d' :: rest' := by
    simpa [FileVariable.spelling] using heq
  exact Text.eq_of_append_mark hbrace v.label_facts.2.1 hlabels

theorem rewrite_variable (rest : List Char) :
    Text.rewrite (Text.wordToken v.spelling value) (v.spelling ++ rest) =
      value ++ Text.rewrite (Text.wordToken v.spelling value) rest := by
  refine Text.rewrite_token _ (by simp [FileVariable.spelling]) ?_
  rw [Text.wordToken, Text.dropPrefix?_eq_some_iff.mpr rfl, Option.map_some]

end Variable

end Template

namespace Renderer

open Template

variable (r : Renderer)

/-- What the placeholders of a family are filled from, if it is there. -/
def source? (r : Renderer) : Family → Option (List Char → List Char)
  | .diagnostic => r.evidence.diagnostic.map fun d => substituted d.captured
  | .diagnosticLookup => do
    let d ← r.evidence.diagnostic
    let table ← chosenTable? r.tables d.captured
    return indexed table
  | .cursor => r.evidence.cursor.map fun c => substituted c.captured
  | .lookup => some (looked r.tables)

/-- The value of a part, if it is a placeholder or a variable whose source is there. -/
def value? (r : Renderer) : Segment → Option (List Char)
  | .literal _ => none
  | .placeholder family argument => (r.source? family).map fun value => value argument
  | .file v => r.file.map fun file => v.read file

/-- What a part stands for: its own value, or itself if it has none. -/
def standsFor (r : Renderer) (s : Segment) : List Char := (r.value? s).getD s.spelling

/-- Whether the value of a part holds nothing that a later pass might read. -/
def Clean (r : Renderer) (s : Segment) : Prop :=
  ∀ p value, s.pass? = some p → r.value? s = some value → p.Admits value

/-- What a pass reads, if its source is there. -/
def reader? (r : Renderer) : Pass → Option Text.TokenReader
  | .family f => (r.source? f).map (placeholder f.label)
  | .file v => r.file.map fun file => Text.wordToken v.spelling (v.read file)

/-- One pass over a text. -/
def fillAt (r : Renderer) (text : List Char) (p : Pass) : List Char :=
  match r.reader? p with
  | some token? => Text.rewrite token? text
  | none => text

theorem renderChars_eq_foldl (text : List Char) :
    r.renderChars text = Pass.all.foldl r.fillAt text := by
  obtain ⟨⟨diagnostic, cursor⟩, tables, file⟩ := r
  cases diagnostic with
  | none => cases cursor <;> cases file <;> rfl
  | some d =>
      cases htable : chosenTable? tables d.captured <;> cases cursor <;> cases file <;>
        simp only [renderChars, fillDiagnostic, Pass.all, List.foldl_cons, List.foldl_nil, fillAt,
          reader?, source?, Option.map_some, Option.bind_eq_bind, Option.bind_some,
          Option.bind_none, htable] <;> rfl

variable {r}

theorem opensWith_of_reader? {p : Pass} {token? : Text.TokenReader}
    (hreader : r.reader? p = some token?) : Text.OpensWith token? p.first := by
  cases p with
  | family f =>
      obtain ⟨value, -, rfl⟩ := Option.map_eq_some_iff.mp hreader
      exact placeholder_opensWith
  | file v =>
      obtain ⟨file, -, rfl⟩ := Option.map_eq_some_iff.mp hreader
      exact wordToken_opensWith

/-- A pass keeps what another one is to fill. -/
theorem keeps_spelling {p : Pass} {token? : Text.TokenReader}
    (hreader : r.reader? p = some token?) {s : Segment} (hwell : s.WellFormed)
    (hother : s.pass? ≠ some p) : Text.Keeps token? s.spelling := by
  cases s with
  | literal cs =>
      refine (opensWith_of_reader? hreader).keeps ?_
      cases p with
      | family f => exact hwell.1
      | file v => exact hwell.2
  | placeholder g argument =>
      cases p with
      | family f =>
          obtain ⟨value, -, rfl⟩ := Option.map_eq_some_iff.mp hreader
          exact keeps_other_placeholder
            (fun heq => hother (congrArg (fun f => some (Pass.family f)) heq)) hwell.1
      | file v =>
          obtain ⟨file, -, rfl⟩ := Option.map_eq_some_iff.mp hreader
          exact keeps_placeholder g hwell.1
  | file w =>
      cases p with
      | family f =>
          obtain ⟨value, -, rfl⟩ := Option.map_eq_some_iff.mp hreader
          exact keeps_variable w
      | file v =>
          obtain ⟨file, -, rfl⟩ := Option.map_eq_some_iff.mp hreader
          exact keeps_other_variable
            fun heq => hother (congrArg (fun v => some (Pass.file v)) heq)

/-- A pass puts the value of a part in its place. -/
theorem rewrite_spelling {p : Pass} {token? : Text.TokenReader}
    (hreader : r.reader? p = some token?) {s : Segment} (hwell : s.WellFormed)
    (hown : s.pass? = some p) (rest : List Char) :
    Text.rewrite token? (s.spelling ++ rest) = r.standsFor s ++ Text.rewrite token? rest := by
  cases s with
  | literal cs => cases hown
  | placeholder f argument =>
      obtain rfl := Option.some.inj hown
      obtain ⟨value, hsource, rfl⟩ := Option.map_eq_some_iff.mp hreader
      rw [rewrite_placeholder hwell.2.1 hwell.2.2, standsFor, value?, hsource, Option.map_some,
        Option.getD_some]
  | file v =>
      obtain rfl := Option.some.inj hown
      obtain ⟨file, hfile, rfl⟩ := Option.map_eq_some_iff.mp hreader
      rw [Segment.spelling, rewrite_variable, standsFor, value?, hfile, Option.map_some,
        Option.getD_some]

/-- A part whose pass does not take place stands for itself. -/
theorem standsFor_of_reader?_eq_none {p : Pass} (hreader : r.reader? p = none) {s : Segment}
    (hown : s.pass? = some p) : r.standsFor s = s.spelling := by
  cases s with
  | literal cs => cases hown
  | placeholder f argument =>
      obtain rfl := Option.some.inj hown
      rw [standsFor, value?, Option.map_eq_none_iff.mp hreader, Option.map_none, Option.getD_none]
  | file v =>
      obtain rfl := Option.some.inj hown
      rw [standsFor, value?, Option.map_eq_none_iff.mp hreader, Option.map_none, Option.getD_none]

theorem standsFor_of_pass?_eq_none {s : Segment} (hpass : s.pass? = none) :
    r.standsFor s = s.spelling := by
  cases s with
  | literal cs => rfl
  | placeholder _ _ => cases hpass
  | file _ => cases hpass

/-- A part after some of the passes: it is filled if its own pass is among them. -/
def written (r : Renderer) (done : List Pass) (s : Segment) : List Char :=
  if ∃ p ∈ done, s.pass? = some p then r.standsFor s else s.spelling

/-- A pass keeps what the passes before it have made of a part. -/
theorem keeps_written {p : Pass} {token? : Text.TokenReader} (hreader : r.reader? p = some token?)
    {s : Segment} (hwell : s.WellFormed) (hclean : r.Clean s) (hother : s.pass? ≠ some p)
    {done : List Pass} (hdone : ∀ q ∈ done, [q, p].Sublist Pass.all) :
    Text.Keeps token? (r.written done s) := by
  rw [written]
  split
  case isTrue hfilled =>
    obtain ⟨q, hq, hpass⟩ := hfilled
    cases hvalue : r.value? s with
    | some value =>
        rw [standsFor, hvalue, Option.getD_some]
        exact (opensWith_of_reader? hreader).keeps
          ((hclean q value hpass hvalue).first_not_mem (hdone q hq))
    | none =>
        rw [standsFor, hvalue, Option.getD_none]
        exact keeps_spelling hreader hwell hother
  case isFalse => exact keeps_spelling hreader hwell hother

theorem written_nil : r.written [] = Segment.spelling :=
  funext fun _ => if_neg fun ⟨_, hp, _⟩ => List.not_mem_nil hp

theorem written_all : r.written Pass.all = r.standsFor := by
  funext s
  cases hpass : s.pass? with
  | none => rw [written, if_neg (by simp [hpass]), standsFor_of_pass?_eq_none hpass]
  | some p => exact if_pos ⟨p, p.mem_all, hpass⟩

theorem written_append_of_ne {p : Pass} {s : Segment} (hother : s.pass? ≠ some p)
    (done : List Pass) : r.written (done ++ [p]) s = r.written done s := by
  have hiff : (∃ q ∈ done ++ [p], s.pass? = some q) ↔ ∃ q ∈ done, s.pass? = some q := by
    simp [or_and_right, exists_or, hother]
  simp only [written, hiff]

theorem written_append_self {p : Pass} {s : Segment} (hown : s.pass? = some p)
    (done : List Pass) : r.written (done ++ [p]) s = r.standsFor s :=
  if_pos ⟨p, by simp, hown⟩

theorem written_of_not_mem {p : Pass} {s : Segment} (hown : s.pass? = some p) {done : List Pass}
    (hnew : p ∉ done) : r.written done s = s.spelling := by
  refine if_neg fun ⟨q, hq, hpass⟩ => hnew ?_
  rw [hown] at hpass
  exact Option.some.inj hpass ▸ hq

variable {segments : List Segment}

/-- One pass fills the parts that are its own, and leaves the others as the passes before it have
made them. -/
theorem fillAt_written (hsegments : ∀ s ∈ segments, s.WellFormed ∧ r.Clean s) {p : Pass}
    {done : List Pass} (hnew : p ∉ done) (hdone : ∀ q ∈ done, [q, p].Sublist Pass.all) :
    r.fillAt (segments.flatMap (r.written done)) p =
      segments.flatMap (r.written (done ++ [p])) := by
  rw [fillAt]
  cases hreader : r.reader? p with
  | none =>
      refine congrArg segments.flatMap (funext fun s => ?_)
      by_cases hown : s.pass? = some p
      · rw [written_append_self hown, written_of_not_mem hown hnew,
          standsFor_of_reader?_eq_none hreader hown]
      · rw [written_append_of_ne hown]
  | some token? =>
      refine Text.rewrite_flatMap fun s hs rest => ?_
      obtain ⟨hwell, hclean⟩ := hsegments s hs
      by_cases hown : s.pass? = some p
      · rw [written_append_self hown, written_of_not_mem hown hnew,
          rewrite_spelling hreader hwell hown]
      · rw [written_append_of_ne hown]
        exact keeps_written hreader hwell hclean hown hdone rest

/-- The passes that are left fill the parts that are left. -/
theorem foldl_fillAt_written (hsegments : ∀ s ∈ segments, s.WellFormed ∧ r.Clean s)
    {done todo : List Pass} (hall : done ++ todo = Pass.all) :
    todo.foldl r.fillAt (segments.flatMap (r.written done)) =
      segments.flatMap (r.written Pass.all) := by
  induction todo generalizing done with
  | nil =>
      rw [List.append_nil] at hall
      rw [List.foldl_nil, hall]
  | cons p todo ih =>
      have hnodup : (done ++ p :: todo).Nodup := hall ▸ by decide
      have hnew : p ∉ done := fun hmem =>
        (List.nodup_append.mp hnodup).2.2 p hmem p List.mem_cons_self rfl
      have hdone : ∀ q ∈ done, [q, p].Sublist Pass.all := by
        intro q hq
        rw [← hall]
        exact (List.singleton_sublist.mpr hq).append
          (List.singleton_sublist.mpr List.mem_cons_self)
      rw [List.foldl_cons, fillAt_written hsegments hnew hdone]
      exact ih (by rw [← hall, List.append_assoc, List.singleton_append])

/-- Whatever has a pass of its own opens a placeholder or a variable. -/
theorem templated_of_pass? {s : Segment} (hs : s ∈ segments) {p : Pass} (hpass : s.pass? = some p) :
    Templated (String.ofList (segments.flatMap Segment.spelling)) := by
  have hpart : s.spelling <:+: segments.flatMap Segment.spelling :=
    List.infix_of_mem_flatten (List.mem_map_of_mem hs)
  rw [Templated, String.toList_ofList]
  cases s with
  | literal cs => cases hpass
  | placeholder f argument =>
      refine .inl (List.IsInfix.trans ?_ hpart)
      rw [Segment.spelling, List.append_assoc, List.append_assoc]
      exact (List.prefix_append opening _).isInfix
  | file v =>
      refine .inr (List.IsInfix.trans ?_ hpart)
      exact (List.prefix_append ['$', '\x7b'] _).isInfix

/-- Rendering puts the own value of each placeholder and each variable in its place, all of them at
once: what has no source stands for itself, the text between stays, and no value is read again. -/
theorem render_at_once (r : Renderer) {segments : List Segment}
    (hsegments : ∀ s ∈ segments, s.WellFormed ∧ r.Clean s) :
    r.render (String.ofList (segments.flatMap Segment.spelling)) =
      String.ofList (segments.flatMap r.standsFor) := by
  by_cases htemplated : Templated (String.ofList (segments.flatMap Segment.spelling))
  · rw [render, if_pos (hasPlaceholders_iff.mpr htemplated), String.toList_ofList,
      renderChars_eq_foldl, ← written_nil, foldl_fillAt_written hsegments (List.nil_append _),
      written_all]
  · rw [render_of_not_templated r htemplated]
    refine congrArg String.ofList (List.flatMap_congr fun s hs => ?_)
    have hpass : s.pass? = none :=
      Option.eq_none_iff_forall_ne_some.mpr fun p hp => htemplated (templated_of_pass? hs hp)
    rw [standsFor_of_pass?_eq_none hpass]

end Renderer

namespace RenderingWitness

open Template

def anyLetter : Regex :=
  ⟨"[a-z]", #[.save 0, .set (.bands [⟨97, 122, 1⟩]), .save 1, .accept], [none]⟩

/-- A diagnostic about one letter, no evidence from around the cursor, and a table whose text spells
placeholders. -/
def renderer : Renderer where
  evidence :=
    { diagnostic := some ⟨⟨[some "q"], anyLetter⟩, ⟨⟨⟨0, 0⟩, ⟨0, 1⟩⟩, none, none, none, "q"⟩⟩ }
  tables := { lookup := [("k", "\x7b\x7bdiag:x\x7d\x7d\x7b\x7blookup:k\x7d\x7d")] }
  file := some ⟨"m", "m.rs", ".rs", "/w"⟩

def segments : List Segment := [
  .placeholder .lookup ['k'], .literal ['-'], .placeholder .diagnostic ['$', '&'],
  .placeholder .cursor ['$'], .file .extension]

theorem matchFrom?_letter : anyLetter.matchFrom? ['q'] 0 = some [some ⟨0, 1⟩] := by cbv

theorem substituted_letter : substituted ⟨[some "q"], anyLetter⟩ ['$', '&'] = ['q'] := by
  have hmatched : (Captured.mk [some "q"] anyLetter).matched.toList = ['q'] := rfl
  rw [substituted, Captured.substitute, hmatched, matchFrom?_letter]
  rfl

theorem clean_segments : ∀ s ∈ segments, s.WellFormed ∧ renderer.Clean s := by
  have hkey : looked renderer.tables ['k'] =
      "\x7b\x7bdiag:x\x7d\x7d\x7b\x7blookup:k\x7d\x7d".toList := rfl
  intro s hs
  simp only [segments, List.mem_cons, List.not_mem_nil, or_false] at hs
  rcases hs with rfl | rfl | rfl | rfl | rfl
  · refine ⟨by simp [Segment.WellFormed], fun p value hpass hvalue => ?_⟩
    cases hpass
    obtain rfl := Option.some.inj (hvalue.symm.trans (congrArg some hkey))
    exact (by decide : '$' ∉ "\x7b\x7bdiag:x\x7d\x7d\x7b\x7blookup:k\x7d\x7d".toList)
  · refine ⟨by simp [Segment.WellFormed], fun p value hpass _ => ?_⟩
    cases hpass
  · refine ⟨by simp [Segment.WellFormed], fun p value hpass hvalue => ?_⟩
    cases hpass
    obtain rfl := Option.some.inj (hvalue.symm.trans (congrArg some substituted_letter))
    exact ⟨by decide, by decide⟩
  · refine ⟨by simp [Segment.WellFormed], fun p value _ hvalue => ?_⟩
    cases hvalue
  · refine ⟨trivial, fun p value hpass hvalue => ?_⟩
    cases hpass
    cases hvalue
    exact (by decide : '$' ∉ ".rs".toList)

/-- The text of the table stays as it is, and so does the placeholder for the cursor. -/
theorem render_at_once_segments :
    (∀ s ∈ segments, s.WellFormed ∧ renderer.Clean s) ∧
      renderer.render (String.ofList (segments.flatMap Segment.spelling)) =
        "\x7b\x7bdiag:x\x7d\x7d\x7b\x7blookup:k\x7d\x7d-q\x7b\x7batCursor:$\x7d\x7d.rs" := by
  refine ⟨clean_segments, ?_⟩
  rw [Renderer.render_at_once renderer clean_segments]
  change String.ofList (_ ++ (['-'] ++ (substituted ⟨[some "q"], anyLetter⟩ ['$', '&'] ++ _))) = _
  rw [substituted_letter]
  rfl

end RenderingWitness

end QuickFix
