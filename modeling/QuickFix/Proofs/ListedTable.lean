import Mathlib
import QuickFix.Proofs.Loading
import QuickFix.Proofs.Numerals
import QuickFix.Proofs.PlainText

/-!
Tables that are written as lists. A list gives its items by their indices, so a mapping from the
decimal numerals of the indices to the items says the same: settings with either of them load alike,
and whatever is rendered with their tables is the same text. A placeholder for an entry of such a
table is filled with the item whose index its argument spells.
-/

namespace QuickFix

section Lookup

variable {β : Type} {entries other : List (String × β)} {key : String}

theorem lookup_eq_some_iff_mem (hnodup : (entries.map Prod.fst).Nodup) {value : β} :
    entries.lookup key = some value ↔ (key, value) ∈ entries := by
  induction entries with
  | nil => simp
  | cons entry rest ih =>
      obtain ⟨k, v⟩ := entry
      rw [List.map_cons, List.nodup_cons] at hnodup
      by_cases hk : key = k
      · subst hk
        have habsent : (key, value) ∉ rest := fun hmem =>
          hnodup.1 (List.mem_map.mpr ⟨(key, value), hmem, rfl⟩)
        simp [habsent, eq_comm]
      · simp [List.lookup_cons, beq_false_of_ne hk, ih hnodup.2, hk]

/-- Where no key is used twice, the order of the entries says nothing. -/
theorem lookup_perm (hperm : other.Perm entries) (hnodup : (entries.map Prod.fst).Nodup) :
    other.lookup key = entries.lookup key := by
  have hnodup' : (other.map Prod.fst).Nodup := (hperm.map Prod.fst).nodup_iff.mpr hnodup
  ext value
  rw [lookup_eq_some_iff_mem hnodup, lookup_eq_some_iff_mem hnodup', hperm.mem_iff]

end Lookup

namespace Tables

/-- What the table of a group has for each key. -/
def entries? (t : Tables) (group : String) : Option (String → Option String) :=
  (t.group? group).map fun table key => table.lookup key

/-- Tables that have the same texts for all keys. -/
structure Alike (t t' : Tables) : Prop where
  text? : ∀ key, t.text? key = t'.text? key
  entries? : ∀ group, t.entries? group = t'.entries? group

end Tables

namespace Renderer

open Template

variable {t t' : Tables} (evidence : Evidence) (file : Option FileVariables)

/-- The text that a table has for an index, by what it has for each key. -/
def indexedBy (held? : String → Option String) (argument : List Char) : List Char :=
  (((index? argument).bind fun n => held? (String.ofList (Nat.toDigits 10 n))).getD
    unknownText).toList

theorem map_indexed_chosenTable? (t : Tables) (m : Captured) :
    (chosenTable? t m).map indexed =
      ((m.group? 1).bind fun group => if group = "" then none else t.entries? group).map
        indexedBy := by
  rw [chosenTable?]
  cases m.group? 1 with
  | none => rfl
  | some group =>
      by_cases hgroup : group = ""
      · simp [hgroup]
      · simp only [hgroup, ↓reduceIte, Option.bind_some, Tables.entries?, Option.map_map]
        rfl

/-- Rendering sees no more of the tables than what they have for each key. -/
theorem source?_congr (halike : t.Alike t') :
    source? ⟨evidence, t, file⟩ = source? ⟨evidence, t', file⟩ := by
  funext family
  cases family with
  | diagnostic | cursor => rfl
  | lookup =>
      have hlooked : looked t = looked t' := by
        funext argument
        rw [looked, looked, halike.text?]
      exact congrArg some hlooked
  | diagnosticLookup =>
      have hchosen : ∀ m, (chosenTable? t m).map indexed = (chosenTable? t' m).map indexed := by
        intro m
        simp only [map_indexed_chosenTable?, halike.entries?]
      cases hdiagnostic : evidence.diagnostic with
      | none => simp [source?, hdiagnostic]
      | some d =>
          simpa [source?, hdiagnostic, Option.map_eq_bind, Function.comp_def] using
            hchosen d.captured

theorem render_congr (halike : t.Alike t') (template : String) :
    render ⟨evidence, t, file⟩ template = render ⟨evidence, t', file⟩ template := by
  have hfill : fillAt ⟨evidence, t, file⟩ = fillAt ⟨evidence, t', file⟩ := by
    funext text p
    have hreader : reader? ⟨evidence, t, file⟩ p = reader? ⟨evidence, t', file⟩ p := by
      cases p with
      | family f => rw [reader?, reader?, source?_congr evidence file halike]
      | file v => rfl
    rw [fillAt, fillAt, hreader]
  rw [render_eq, render_eq, renderChars_eq_foldl, renderChars_eq_foldl, hfill]

/-- The same without the evidence from a diagnostic. -/
def undiagnosed (r : Renderer) : Renderer :=
  { r with evidence := { r.evidence with diagnostic := none } }

variable {r : Renderer} {d : DiagnosticMatch}

theorem renderChars_of_diagnostic (hd : r.evidence.diagnostic = some d) (text : List Char) :
    r.renderChars text = r.undiagnosed.renderChars (fillDiagnostic r.tables d.captured text) := by
  obtain ⟨⟨diagnostic, cursor⟩, tables, file⟩ := r
  obtain rfl : diagnostic = some d := hd
  rfl

/-- Whether the first group of the match in a diagnostic is the name of a group. -/
def Chooses (r : Renderer) (group : String) : Prop :=
  ∃ d, r.evidence.diagnostic = some d ∧ d.captured.group? 1 = some group

/-- A placeholder for an entry of the chosen table. -/
def entryText (argument : List Char) : String :=
  String.ofList (Segment.placeholder .diagnosticLookup argument).spelling

/-- The entry is put in place of its placeholder, and then the other passes go over it. -/
theorem render_entryText (hd : r.evidence.diagnostic = some d)
    {table : List (String × String)} (htable : chosenTable? r.tables d.captured = some table)
    {argument : List Char}
    (hargument : (Segment.placeholder .diagnosticLookup argument).WellFormed) :
    r.render (entryText argument) =
      r.undiagnosed.render (String.ofList (indexed table argument)) := by
  obtain ⟨hopen, hclose, hline⟩ := hargument
  have hkept : Text.rewrite (placeholder Family.diagnostic.label (substituted d.captured))
      (Segment.placeholder .diagnosticLookup argument).spelling =
        (Segment.placeholder .diagnosticLookup argument).spelling :=
    (keeps_other_placeholder (by decide) hopen).rewrite_eq
  have hfilled : Text.rewrite (placeholder Family.diagnosticLookup.label (indexed table))
      (Segment.placeholder .diagnosticLookup argument).spelling = indexed table argument :=
    Text.rewrite_eq_of_append (rewrite_placeholder hclose hline)
  have hdiagnostic : fillDiagnostic r.tables d.captured
      (Segment.placeholder .diagnosticLookup argument).spelling = indexed table argument := by
    rw [fillDiagnostic, htable]
    change Text.rewrite (placeholder Family.diagnosticLookup.label (indexed table))
      (Text.rewrite (placeholder Family.diagnostic.label (substituted d.captured)) _) = _
    rw [hkept, hfilled]
  rw [render_eq, render_eq, entryText, String.toList_ofList, String.toList_ofList,
    renderChars_of_diagnostic hd, hdiagnostic]

end Renderer

namespace Json

/-- The members that give the items of a list by the decimal numerals of their indices, in any
order. -/
def Lists (members : List (String × Json)) (items : List Json) : Prop :=
  members.Perm (items.zipIdx.map fun (item, i) => (toString i, item))

end Json

namespace Settings

open Json Template

variable {root groups members : List (String × Json)} {group : String} {items : List Json}

/-- The table that a list makes. -/
def listed (items : List Json) : List (String × String) :=
  items.zipIdx.map fun (item, i) => (toString i, textOf item)

theorem nodup_listed (items : List Json) : ((listed items).map Prod.fst).Nodup := by
  have hkeys : (listed items).map Prod.fst = (List.range' 0 items.length).map Nat.repr := by
    rw [listed, List.map_map, ← List.zipIdx_map_snd, List.map_map]
    rfl
  rw [hkeys]
  exact List.Nodup.map (fun _ _ heq => Nat.repr_inj.mp heq) List.nodup_range'

theorem lookup_listed (items : List Json) (i : Nat) :
    (listed items).lookup (toString i) = items[i]?.map textOf := by
  ext text
  rw [lookup_eq_some_iff_mem (nodup_listed items), Option.map_eq_some_iff, listed, List.mem_map]
  constructor
  · rintro ⟨⟨item, i'⟩, hitem, heq⟩
    obtain ⟨hkey, rfl⟩ := Prod.mk.inj heq
    obtain rfl : i' = i := Nat.repr_inj.mp hkey
    exact ⟨item, List.mem_zipIdx_iff_getElem?.mp hitem, rfl⟩
  · rintro ⟨item, hitem, rfl⟩
    exact ⟨(item, i), List.mem_zipIdx_iff_getElem?.mpr hitem, rfl⟩

/-- The mapping makes the same table, but for the order of its entries. -/
theorem textsOf_perm (hlists : Lists members items) : (textsOf members).Perm (listed items) := by
  have hlisted : listed items =
      textsOf (items.zipIdx.map fun (item, i) => (toString i, item)) := by
    rw [listed, textsOf, List.map_map]
    rfl
  rw [hlisted]
  exact hlists.map _

/-- The tables of a section. -/
def groupsOf (groups : List (String × Json)) : List (String × List (String × String)) :=
  groups.filterMap fun (group, value) => (table? value).map (group, ·)

theorem groupsOf_append {value : Json} {table : List (String × String)}
    (htable : table? value = some table) (front behind : List (String × Json)) :
    groupsOf (front ++ (group, value) :: behind) =
      groupsOf front ++ (group, table) :: groupsOf behind := by
  simp [groupsOf, htable]

theorem lookup_groupsOf {value : Json} (hvalue : member? group groups = some value)
    {table : List (String × String)} (htable : table? value = some table) :
    (groupsOf groups).lookup group = some table := by
  induction groups with
  | nil => cases hvalue
  | cons member rest ih =>
      obtain ⟨k, v⟩ := member
      by_cases hk : k = group
      · rw [member?, if_pos hk] at hvalue
        obtain rfl := Option.some.inj hvalue
        simp [groupsOf, htable, hk]
      · rw [member?, if_neg hk] at hvalue
        have hrest : (groupsOf ((k, v) :: rest)).lookup group = (groupsOf rest).lookup group := by
          cases hv : table? v with
          | none => simp [groupsOf, hv]
          | some _ => simp [groupsOf, hv, List.lookup_cons, beq_false_of_ne (Ne.symm hk)]
        rw [hrest, ih hvalue]

theorem lookup_groupsOf_setMember {old new : Json} (hold : member? group groups = some old)
    {before after : List (String × String)} (hbefore : table? old = some before)
    (hafter : table? new = some after) {other : String} (hother : other ≠ group) :
    (groupsOf (setMember group new groups)).lookup other = (groupsOf groups).lookup other := by
  obtain ⟨front, behind, hgroups, hset⟩ := exists_setMember_eq hold
  rw [hset, hgroups, groupsOf_append hafter, groupsOf_append hbefore, List.lookup_append,
    List.lookup_append]
  simp only [List.lookup_cons, beq_false_of_ne hother]

/-- The settings in which a group has another table. -/
def withTable (root groups : List (String × Json)) (group : String) (table : Json) : Json :=
  .object (setMember "diagLookup" (.object (setMember group table groups)) root)

theorem alike_of_lists (hgroups : member? "diagLookup" root = some (.object groups))
    (hitems : member? group groups = some (.array items)) (hlists : Lists members items) :
    (tablesOf (setMember "diagLookup" (.object (setMember group (.object members) groups))
      root)).Alike (tablesOf root) where
  text? key := by
    have hlookup : ∀ value, membersAt "lookup" (setMember "diagLookup" value root) =
        membersAt "lookup" root := by
      intro value
      rw [membersAt, membersAt, member?_setMember_of_ne (by decide)]
    simp only [Tables.text?, tablesOf, hlookup]
  entries? other := by
    have hsection : membersAt "diagLookup" root = groups := by
      rw [membersAt, hgroups]
    have hsection' : ∀ groups' : List (String × Json),
        membersAt "diagLookup" (setMember "diagLookup" (.object groups') root) = groups' := by
      intro groups'
      rw [membersAt, member?_setMember_self]
    have hlist : table? (.array items) = some (listed items) := rfl
    have hmapping : table? (.object members) = some (textsOf members) := rfl
    simp only [Tables.entries?, Tables.group?, tablesOf, hsection, hsection']
    change ((groupsOf _).lookup other).map _ = ((groupsOf _).lookup other).map _
    by_cases hother : other = group
    · subst hother
      rw [lookup_groupsOf (member?_setMember_self _ _ _) hmapping, lookup_groupsOf hitems hlist,
        Option.map_some, Option.map_some, Option.some.injEq]
      funext key
      exact lookup_perm (textsOf_perm hlists) (nodup_listed items)
    · rw [lookup_groupsOf_setMember hitems hlist hmapping hother]

theorem indexed_listed (items : List Json) (argument : List Char) :
    Template.indexed (listed items) argument =
      (((Template.index? argument).bind fun i => items[i]?.map textOf).getD unknownText).toList := by
  simp only [Template.indexed, ← Nat.toString_eq_ofList_toDigits, lookup_listed]

theorem not_templated_unknownText : ¬ Templated unknownText := by
  rw [← hasPlaceholders_iff]
  decide

section Rendering

variable {r : Renderer} {argument : List Char}
  (hlisted : r.tables.group? group = some (listed items)) (hgroup : group ≠ "")
  (hchooses : r.Chooses group)
  (hargument : (Segment.placeholder .diagnosticLookup argument).WellFormed)
include hlisted hgroup hchooses hargument

/-- A placeholder for an entry of a listed table is filled with the item of its index. -/
theorem render_listed :
    r.render (Renderer.entryText argument) = r.undiagnosed.render
      (((Template.index? argument).bind fun i => items[i]?.map textOf).getD unknownText) := by
  obtain ⟨d, hd, hfirst⟩ := hchooses
  have htable : Template.chosenTable? r.tables d.captured = some (listed items) := by
    simp only [Template.chosenTable?, hfirst, hgroup, ↓reduceIte, hlisted]
  rw [Renderer.render_entryText hd htable hargument, indexed_listed, String.ofList_toList]

theorem render_listed_of_spells {i : Nat} {item : Json} (hbound : i < 2 ^ 64)
    (hitem : items[i]? = some item) (hspells : Spells i (Text.trim argument)) :
    r.render (Renderer.entryText argument) = r.undiagnosed.render (textOf item) := by
  have hindex : Template.index? argument = some i :=
    Template.index?_eq_some_iff.mpr ⟨hbound, hspells⟩
  rw [render_listed hlisted hgroup hchooses hargument, hindex, Option.bind_some, hitem,
    Option.map_some, Option.getD_some]

theorem render_listed_of_not_spells
    (hnone : ∀ i < items.length, i < 2 ^ 64 → ¬ Spells i (Text.trim argument)) :
    r.render (Renderer.entryText argument) = unknownText := by
  have hentry : ((Template.index? argument).bind fun i => items[i]?.map textOf) = none := by
    rw [Option.bind_eq_none_iff]
    intro i hindex
    obtain ⟨hbound, hspells⟩ := Template.index?_eq_some_iff.mp hindex
    rw [Option.map_eq_none_iff, List.getElem?_eq_none_iff]
    by_contra hlt
    exact hnone i (Nat.lt_of_not_le hlt) hbound hspells
  rw [render_listed hlisted hgroup hchooses hargument, hentry, Option.getD_none]
  exact Renderer.render_of_not_templated _ not_templated_unknownText

end Rendering

section Loading

variable (hgroups : member? "diagLookup" root = some (.object groups))
  (hitems : member? group groups = some (.array items))
include hgroups hitems

theorem group?_tablesOf : (tablesOf root).group? group = some (listed items) := by
  have hsection : membersAt "diagLookup" root = groups := by
    rw [membersAt, hgroups]
  rw [Tables.group?, tablesOf, hsection]
  exact lookup_groupsOf hitems rfl

theorem withTable_array : withTable root groups group (.array items) = .object root := by
  obtain ⟨front, behind, hfront, hsetGroup⟩ := exists_setMember_eq hitems
  obtain ⟨first, last, hfirst, hsetSection⟩ := exists_setMember_eq hgroups
  rw [withTable, hsetGroup, ← hfront, hsetSection, ← hfirst]

end Loading

/-- Only the section of the tables is another then, and it is a mapping again. -/
theorem ofValue_withTable (hactions : Readable (member? "actions" root))
    (hlookup : Readable (member? "lookup" root)) (table : Json) :
    ofValue (withTable root groups group table) =
      .ok ⟨tablesOf (setMember "diagLookup" (.object (setMember group table groups)) root),
        setsOf (membersAt "actions" root)⟩ := by
  have hother : ∀ name, name ≠ "diagLookup" → ∀ value,
      member? name (setMember "diagLookup" value root) = member? name root := by
    intro name hname value
    exact member?_setMember_of_ne hname value root
  have hsame : ∀ value, membersAt "actions" (setMember "diagLookup" value root) =
      membersAt "actions" root := by
    intro value
    rw [membersAt, membersAt, hother "actions" (by decide)]
  rw [withTable, ofValue_object, hsame]
  · rw [hother "actions" (by decide)]
    exact hactions
  · rw [hother "lookup" (by decide)]
    exact hlookup
  · rw [member?_setMember_self]
    exact .inr (.inr ⟨_, rfl⟩)

/-- What it is for a table of settings to be written as a list. -/
structure ReadsListed (root groups : List (String × Json)) (group : String) (items : List Json)
    (c : Configuration) : Prop where
  /-- The list is a table of the settings. -/
  same : withTable root groups group (.array items) = .object root
  /-- With a mapping from the indices to the items in its place the settings load as well, and what
  is rendered with their tables is the same. -/
  mapping : ∀ members, Lists members items →
    ∃ c', ofValue (withTable root groups group (.object members)) = .ok c' ∧ c'.sets = c.sets ∧
      ∀ evidence file template, Renderer.render ⟨evidence, c'.tables, file⟩ template =
        Renderer.render ⟨evidence, c.tables, file⟩ template
  /-- A placeholder whose argument spells the index of an item is filled with the text of the item.
  The passes behind go over that text, and leave it as it is unless it opens a placeholder or a
  variable. -/
  item : ∀ (r : Renderer) (argument : List Char), r.tables = c.tables → r.Chooses group →
    (Segment.placeholder .diagnosticLookup argument).WellFormed →
      ∀ i item, i < 2 ^ 64 → items[i]? = some item → Spells i (Text.trim argument) →
        r.render (Renderer.entryText argument) = r.undiagnosed.render (textOf item) ∧
          (¬ Templated (textOf item) → r.render (Renderer.entryText argument) = textOf item)
  /-- Every other argument names no item. -/
  unknown : ∀ (r : Renderer) (argument : List Char), r.tables = c.tables → r.Chooses group →
    (Segment.placeholder .diagnosticLookup argument).WellFormed →
      (∀ i < items.length, i < 2 ^ 64 → ¬ Spells i (Text.trim argument)) →
        r.render (Renderer.entryText argument) = unknownText

/-- A table that is written as a list is read as the mapping from the indices to its items. -/
theorem readsListed_of_ofValue {c : Configuration} (hok : ofValue (.object root) = .ok c)
    (hgroups : member? "diagLookup" root = some (.object groups))
    (hitems : member? group groups = some (.array items)) (hgroup : group ≠ "") :
    ReadsListed root groups group items c := by
  obtain ⟨hactions, hlookup, hdiagnostics⟩ := readable_of_ofValue hok
  have hc := ofValue_object hactions hlookup hdiagnostics
  rw [hok] at hc
  obtain rfl := Except.ok.inj hc
  have hread : ∀ r : Renderer, r.tables = tablesOf root →
      r.tables.group? group = some (listed items) := by
    intro r htables
    rw [htables, group?_tablesOf hgroups hitems]
  refine ⟨withTable_array hgroups hitems, ?_, ?_, ?_⟩
  · intro members hlists
    refine ⟨_, ofValue_withTable hactions hlookup _, rfl, ?_⟩
    intro evidence file template
    exact Renderer.render_congr evidence file (alike_of_lists hgroups hitems hlists) template
  · intro r argument htables hchooses hargument i item hbound hitem hspells
    have hrender := render_listed_of_spells (hread r htables) hgroup hchooses hargument hbound
      hitem hspells
    refine ⟨hrender, fun hplain => ?_⟩
    rw [hrender, Renderer.render_of_not_templated _ hplain]
  · intro r argument htables hchooses hargument hnone
    exact render_listed_of_not_spells (hread r htables) hgroup hchooses hargument hnone

end Settings

namespace ListedTableWitness

open Settings

/-- An expression whose group is all that it takes. -/
def grouped : Regex :=
  ⟨"(g)", #[.save 0, .save 2, .set (.bands [⟨103, 103, 1⟩]), .save 3, .save 1, .accept],
    [none, none]⟩

def spans : Regex.Spans := [some ⟨0, 1⟩, some ⟨0, 1⟩]

def evidence : Evidence where
  diagnostic := some ⟨.ofSpans grouped ['g'] spans,
    ⟨⟨⟨0, 0⟩, ⟨0, 0⟩⟩, none, none, none, "g"⟩⟩

def sections (items : List Json) : List (String × Json) :=
  [("diagLookup", .object [("g", .array items)])]

/-- A text and a number; the index of the number is written with a blank, a plus sign and a zero. -/
def items : List Json := [.string "a", .ofNat 70]

def members : List (String × Json) := [("1", .ofNat 70), ("0", .string "a")]

theorem compile?_grouped : Regex.compile? "(g)" = some grouped := by cbv

theorem matchFrom?_message : grouped.matchFrom? ['g'] 0 = some spans := by cbv

theorem entry_read :
    Regex.compile? "(g)" = some grouped ∧ grouped.matchFrom? ['g'] 0 = some spans ∧
      ofValue (.object (sections items)) = .ok ⟨tablesOf (sections items), []⟩ ∧
      Json.Lists members items ∧
      (∃ c, ofValue (withTable (sections items) [("g", .array items)] "g" (.object members)) =
        .ok c) ∧
      Renderer.render ⟨evidence, tablesOf (sections items), none⟩
        "\x7b\x7bdiagLookup: +01\x7d\x7d" = "70" ∧
      Renderer.render ⟨evidence, tablesOf (sections items), none⟩
        "\x7b\x7bdiagLookup:2\x7d\x7d" = "Unknown" := by
  have hok : ofValue (.object (sections items)) = .ok ⟨tablesOf (sections items), []⟩ := by
    rfl
  have hlists : Json.Lists members items := List.Perm.swap _ _ _
  have hchooses : Renderer.Chooses ⟨evidence, tablesOf (sections items), none⟩ "g" :=
    ⟨_, rfl, rfl⟩
  have hread : ReadsListed (sections items) [("g", .array items)] "g" items _ :=
    readsListed_of_ofValue hok rfl rfl (by decide)
  obtain ⟨c, hc, -⟩ := hread.mapping members hlists
  refine ⟨compile?_grouped, matchFrom?_message, hok, hlists, ⟨c, hc⟩, ?_, ?_⟩
  · have hspells : Spells 1 (Text.trim " +01".toList) := ⟨1, .inr (by decide)⟩
    apply (hread.item _ " +01".toList rfl hchooses ?_ 1 _ (by decide) rfl hspells).2
    · rw [← Template.hasPlaceholders_iff]
      decide
    · exact ⟨by decide, by decide, by decide⟩
  · apply hread.unknown _ "2".toList rfl hchooses ⟨by decide, by decide, by decide⟩
    intro i hlt hbound hspells
    have hindex : Template.index? "2".toList = some i :=
      Template.index?_eq_some_iff.mpr ⟨hbound, hspells⟩
    obtain rfl : 2 = i := Option.some.inj hindex
    exact absurd hlt (by decide)

/-- An item that spells a placeholder of a later pass does not stay as it is. -/
theorem not_rendered_as_item :
    ofValue (.object (sections [.string "\x7b\x7blookup:k\x7d\x7d"])) =
        .ok ⟨tablesOf (sections [.string "\x7b\x7blookup:k\x7d\x7d"]), []⟩ ∧
      Renderer.render ⟨evidence, tablesOf (sections [.string "\x7b\x7blookup:k\x7d\x7d"]), none⟩
        (Renderer.entryText ['0']) ≠ textOf (.string "\x7b\x7blookup:k\x7d\x7d") := by
  refine ⟨rfl, ?_⟩
  decide

end ListedTableWitness

end QuickFix
