import QuickFix.Proofs.ClientNumbers

/-!
Diagnostics that are sent to a client and read again. All but the range comes back whatever it is,
and a range of the document comes back if its numbers fit. A list is read item by item. Only what
has no range or no message is passed over: an item whose numbers are too large is read at another
place. What was read from a client can be sent back: the places that are read have the numbers they
were read from, rounded up where a pair was split. The pair that the largest number splits is
rounded up above the bound, and comes back as the start of its line.
-/

namespace QuickFix

/-- A split pair has another half behind the place where it is split. -/
theorem Text.SplitsPair.lt_units {cs : List Char} {count : Nat} (hpair : SplitsPair cs count) :
    count < units cs := by
  obtain ⟨n, c, hc, hwide, rfl⟩ := hpair
  have hpast : unitsBefore cs (n + 1) = unitsBefore cs n + 2 := by
    rw [unitsBefore, List.take_add_one, hc, units_append, unitsBefore, ← hwide]
    rfl
  have hle := unitsBefore_le_units cs (n + 1)
  omega

namespace Document

variable {d : Document} {q : ClientPosition}

/-- A position that was read can be edited. -/
theorem admits_ofClient (d : Document) (q : ClientPosition) : d.Admits (d.ofClient q) := by
  cases hline : d.line? q.line.toNat with
  | some content =>
      refine .inl ⟨content, hline, ?_⟩
      simp only [ofClient, hline, Option.getD_some]
      exact Text.charsCovering_le_length content q.character.toNat
  | none =>
      refine .inr ⟨?_, ?_⟩
      · by_contra hin
        obtain ⟨content, hcontent⟩ := Text.exists_line? (Nat.lt_of_not_le hin)
        cases hline.symm.trans hcontent
      · simp only [ofClient, hline, Option.getD_none]
        rfl

/-- Whether a position of a client names the first half of a pair by the largest number there is. -/
def SplitsLast (d : Document) (q : ClientPosition) : Prop :=
  q.character.toNat + 1 = 2 ^ 32 ∧
    Text.SplitsPair ((d.line? q.line.toNat).getD []) q.character.toNat

/-- The numbers of a position that was read fit, unless its pair ends above the bound. -/
theorem counts_ofClient_iff (d : Document) (q : ClientPosition) :
    d.Counts (d.ofClient q) ↔ ¬ d.SplitsLast q := by
  have hline : q.line.toNat < 2 ^ 32 := q.line.toNat_lt
  have hcharacter : q.character.toNat < 2 ^ 32 := q.character.toNat_lt
  let content := (d.line? q.line.toNat).getD []
  have hcounts : d.Counts (d.ofClient q) ↔
      Text.unitsBefore content (Text.charsCovering content q.character.toNat) < 2 ^ 32 :=
    ⟨fun hcounts => hcounts.units, fun hunits => ⟨hline, hunits⟩⟩
  have hsplits : d.SplitsLast q ↔
      q.character.toNat + 1 = 2 ^ 32 ∧ Text.SplitsPair content q.character.toNat := Iff.rfl
  rw [hcounts, hsplits]
  by_cases hpair : Text.SplitsPair content q.character.toNat
  · rcases Text.unitsBefore_charsCovering (Nat.le_of_lt hpair.lt_units) with
      ⟨_, hunits⟩ | ⟨hwhole, _⟩
    · rw [hunits]
      constructor
      · intro hlt hlast
        omega
      · intro hnot
        have hne : q.character.toNat + 1 ≠ 2 ^ 32 := fun hlast => hnot ⟨hlast, hpair⟩
        omega
    · exact absurd hpair hwhole
  · refine iff_of_true ?_ fun hlast => hpair hlast.2
    rcases Nat.le_total q.character.toNat (Text.units content) with hin | hpast
    · rcases Text.unitsBefore_charsCovering hin with ⟨hsplit, _⟩ | ⟨_, hunits⟩
      · exact absurd hsplit hpair
      · rwa [hunits]
    · rw [Text.charsCovering_of_units_le hpast, Text.unitsBefore_length]
      exact Nat.lt_of_le_of_lt hpast hcharacter

/-- Such a pair ends where the numbers of a client start again. -/
theorem ofClient_toClient_of_splitsLast (hlast : d.SplitsLast q) :
    d.ofClient (d.toClient (d.ofClient q)) = ⟨q.line.toNat, 0⟩ := by
  obtain ⟨hbound, hpair⟩ := hlast
  let content := (d.line? q.line.toNat).getD []
  have hunits : Text.unitsBefore content (Text.charsCovering content q.character.toNat) = 2 ^ 32 := by
    rcases Text.unitsBefore_charsCovering (Nat.le_of_lt hpair.lt_units) with
      ⟨_, hunits⟩ | ⟨hwhole, _⟩
    · exact hunits.trans hbound
    · exact absurd hpair hwhole
  have hwrap : UInt32.ofNat (2 ^ 32) = 0 := by decide
  have hsent : d.toClient (d.ofClient q) = ⟨q.line, 0⟩ := by
    simp only [toClient, ofClient, UInt32.ofNat_toNat]
    exact congrArg (ClientPosition.mk q.line) ((congrArg UInt32.ofNat hunits).trans hwrap)
  rw [hsent, ofClient]
  exact congrArg (Position.mk q.line.toNat) (Text.charsCovering_zero _)

/-- Only a line of more code units than a client can count has such a pair. -/
theorem counts_ofClient (hshort : ∀ content ∈ Text.lines d.chars, Text.units content < 2 ^ 32)
    (q : ClientPosition) : d.Counts (d.ofClient q) := by
  apply (d.counts_ofClient_iff q).mpr
  rintro ⟨hlast, hpair⟩
  cases hline : d.line? q.line.toNat with
  | none =>
      rw [hline, Option.getD_none] at hpair
      exact absurd hpair.lt_units (Nat.not_lt_zero _)
  | some content =>
      rw [hline, Option.getD_some] at hpair
      have hunits := hshort content (List.mem_of_getElem? hline)
      have hlong := hpair.lt_units
      omega

end Document

namespace Json

/-- Whether a value has what a diagnostic needs: a range with these numbers, and a message. -/
structure IsDiagnostic (value : Json) (line character line' character' : Nat) : Prop where
  range : ∃ range, value.get? "range" = some range ∧ range.IsRange line character line' character'
  message : ∃ message, value.get? "message" = some (.string message)

variable {value : Json} {n : Nat} {s : String}

theorem eq_of_natural? (hvalue : value.natural? = some n) : value = .ofNat n := by
  unfold natural? at hvalue
  split at hvalue
  · obtain rfl := Option.some.inj hvalue
    rfl
  · cases hvalue

theorem eq_of_text? (hvalue : value.text? = some s) : value = .string s := by
  unfold text? at hvalue
  split at hvalue
  · obtain rfl := Option.some.inj hvalue
    rfl
  · cases hvalue

theorem exists_isPosition {p : ClientPosition} (hp : ClientPosition.ofJson? value = some p) :
    ∃ line character, value.IsPosition line character := by
  simp only [ClientPosition.ofJson?, Option.bind_eq_bind, Option.bind_eq_some_iff] at hp
  obtain ⟨first, hfirst, line, hline, second, hsecond, character, hcharacter, _⟩ := hp
  obtain rfl := eq_of_natural? hline
  obtain rfl := eq_of_natural? hcharacter
  exact ⟨line, character, hfirst, hsecond⟩

theorem exists_isRange {r : ClientRange} (hr : ClientRange.ofJson? value = some r) :
    ∃ line character line' character', value.IsRange line character line' character' := by
  simp only [ClientRange.ofJson?, Option.bind_eq_bind, Option.bind_eq_some_iff] at hr
  obtain ⟨start, hstart, _, hfirst, stop, hstop, _, hlast, _⟩ := hr
  obtain ⟨line, character, hposition⟩ := exists_isPosition hfirst
  obtain ⟨line', character', hposition'⟩ := exists_isPosition hlast
  exact ⟨line, character, line', character', ⟨start, hstart, hposition⟩, stop, hstop, hposition'⟩

end Json

namespace Diagnostic

variable {d : Document} {x : Diagnostic} {item : Json}

/-- What has a range and a message is read, whatever the numbers of its range. -/
theorem exists_ofJson? {line character line' character' : Nat}
    (hitem : item.IsDiagnostic line character line' character') :
    ∃ x, ofJson? d item = some x ∧
      x.range = ⟨d.readAt line character, d.readAt line' character'⟩ := by
  obtain ⟨⟨range, hrange, hnumbers⟩, message, hmessage⟩ := hitem
  exact Document.exists_ofJson?_of_isRange hrange hnumbers hmessage

theorem exists_isDiagnostic (hx : ofJson? d item = some x) :
    ∃ line character line' character', item.IsDiagnostic line character line' character' := by
  simp only [ofJson?, Option.bind_eq_bind, Option.bind_eq_some_iff] at hx
  obtain ⟨range, hrange, r, hr, value, hvalue, message, hmessage, _⟩ := hx
  obtain rfl := Json.eq_of_text? hmessage
  obtain ⟨line, character, line', character', hnumbers⟩ := Json.exists_isRange hr
  exact ⟨line, character, line', character', ⟨range, hrange, hnumbers⟩, message, hvalue⟩

/-- Nothing else is passed over than what lacks one of them. -/
theorem ofJson?_eq_none_iff : ofJson? d item = none ↔
    ∀ line character line' character', ¬ item.IsDiagnostic line character line' character' := by
  constructor
  · intro hnone line character line' character' hitem
    obtain ⟨x, hx, _⟩ := exists_ofJson? (d := d) hitem
    cases hnone.symm.trans hx
  · intro hlacks
    by_contra hread
    obtain ⟨x, hx⟩ := Option.ne_none_iff_exists'.mp hread
    obtain ⟨line, character, line', character', hitem⟩ := exists_isDiagnostic hx
    exact hlacks line character line' character' hitem

/-- Only the range of a diagnostic can change on the way. -/
theorem ofJson?_toJson_eq (d : Document) (x : Diagnostic) :
    ofJson? d (x.toJson d) =
      some { x with range := d.ofClientRange (d.toClientRange x.range) } := by
  obtain ⟨range, severity, code, source, message⟩ := x
  have hrange := (d.toClientRange range).ofJson?_toJson
  cases severity <;> cases code <;> cases source <;>
    simp [ofJson?, toJson, Json.get?, Json.member?, hrange, Json.text?, Json.natural?,
      Json.ofNat, codeOf?, Severity.ofNat?_toNat]

/-- What a diagnostic was read from, as far as its range goes. -/
theorem exists_range_of_ofJson? (hx : ofJson? d item = some x) :
    ∃ r, x.range = d.ofClientRange r := by
  simp only [ofJson?, Option.bind_eq_bind, Option.bind_eq_some_iff, Option.pure_def,
    Option.some.injEq] at hx
  obtain ⟨_, _, r, _, _, _, _, _, rfl⟩ := hx
  exact ⟨r, rfl⟩

/-- A diagnostic comes back exactly if its range does. -/
theorem ofJson?_toJson_iff : ofJson? d (x.toJson d) = some x ↔
    d.ofClientRange (d.toClientRange x.range) = x.range := by
  rw [ofJson?_toJson_eq, Option.some.injEq]
  constructor
  · exact congrArg Diagnostic.range
  · intro hrange
    rw [hrange]

/-- Whether the range of a diagnostic is one that the document admits, with numbers that fit. -/
structure Sendable (d : Document) (x : Diagnostic) : Prop where
  admits : d.Admits x.range.start ∧ d.Admits x.range.stop
  counts : d.Counts x.range.start ∧ d.Counts x.range.stop

theorem ofJson?_toJson (hx : x.Sendable d) : ofJson? d (x.toJson d) = some x := by
  apply ofJson?_toJson_iff.mpr
  exact (Document.ofClientRange_toClientRange_iff hx.admits.1 hx.admits.2).mpr hx.counts

/-- A diagnostic that was read can be sent back if its numbers fit, and only then it arrives. -/
theorem ofJson?_toJson_iff_counts (hx : ofJson? d item = some x) :
    ofJson? d (x.toJson d) = some x ↔ d.Counts x.range.start ∧ d.Counts x.range.stop := by
  obtain ⟨r, hr⟩ := exists_range_of_ofJson? hx
  have hstart : d.Admits x.range.start := hr ▸ d.admits_ofClient r.start
  have hstop : d.Admits x.range.stop := hr ▸ d.admits_ofClient r.stop
  rw [ofJson?_toJson_iff, Document.ofClientRange_toClientRange_iff hstart hstop]

/-- Whether a value holds a list of items, bare or as the member that lists are sent in. -/
def Lists (value : Json) (items : List Json) : Prop :=
  value = .array items ∨ value.get? "diagnostics" = some (.array items)

theorem listOfJson_of_lists {value : Json} {items : List Json} (hvalue : Lists value items) :
    listOfJson d value = items.filterMap (ofJson? d) := by
  rcases hvalue with rfl | hmember
  · rfl
  · rw [listOfJson, hmember]
    rfl

theorem filterMap_toJson {xs : List Diagnostic} (hxs : ∀ x ∈ xs, x.Sendable d) :
    (xs.map (toJson d)).filterMap (ofJson? d) = xs := by
  rw [List.filterMap_map]
  exact (List.filterMap_congr fun x hx => ofJson?_toJson (hxs x hx)).trans List.filterMap_some

end Diagnostic

namespace Document

open Diagnostic

/-- How the diagnostics of a document get to a client and back. -/
structure KeepsDiagnostics (d : Document) : Prop where
  sent : ∀ (xs : List Diagnostic) (value : Json), (∀ x ∈ xs, x.Sendable d) →
    Lists value (xs.map (toJson d)) → listOfJson d value = xs
  /-- A list is read item by item. -/
  itemwise : ∀ (items : List Json) (value : Json), Lists value items →
    listOfJson d value = items.flatMap fun item => (ofJson? d item).toList
  /-- What is no diagnostic is passed over. -/
  skipped : ∀ (front : List Json) (item : Json) (behind : List Json), ofJson? d item = none →
    listOfJson d (.array (front ++ item :: behind)) = listOfJson d (.array (front ++ behind))
  /-- Nothing else is: what has a range and a message is read, whatever its numbers are. -/
  lacking : ∀ item : Json, ofJson? d item = none ↔
    ∀ line character line' character', ¬ item.IsDiagnostic line character line' character'
  /-- Numbers that are too large are cut, and mean the place of what is left of them. -/
  placed : ∀ (item : Json) (line character line' character' : Nat),
    item.IsDiagnostic line character line' character' →
      ∃ x, ofJson? d item = some x ∧
        x.range = ⟨d.readAt line character, d.readAt line' character'⟩
  /-- What was read is read again from what is sent back, if its numbers fit. -/
  again : ∀ (item : Json) (x : Diagnostic), ofJson? d item = some x →
    (ofJson? d (x.toJson d) = some x ↔ d.Counts x.range.start ∧ d.Counts x.range.stop)
  /-- They fit, unless the largest number of a client splits a pair: then the pair ends above it. -/
  fits : ∀ (item : Json) (x : Diagnostic), ofJson? d item = some x →
    ∃ r, x.range = d.ofClientRange r ∧ (d.Counts x.range.start ↔ ¬ d.SplitsLast r.start) ∧
      (d.Counts x.range.stop ↔ ¬ d.SplitsLast r.stop)
  /-- The end of such a pair is sent as the start of its line. -/
  lost : ∀ q, d.SplitsLast q → d.ofClient (d.toClient (d.ofClient q)) = ⟨q.line.toNat, 0⟩
  /-- A line with such a pair has more code units than a client can count. -/
  short : (∀ content ∈ Text.lines d.chars, Text.units content < 2 ^ 32) →
    ∀ (item : Json) (x : Diagnostic), ofJson? d item = some x → ofJson? d (x.toJson d) = some x

/-- Diagnostics survive a client: those that fit are read as they were, each for itself, and what
was read can be sent back. -/
theorem keepsDiagnostics (d : Document) : d.KeepsDiagnostics where
  sent xs value hxs hvalue := by
    rw [listOfJson_of_lists hvalue, filterMap_toJson hxs]
  itemwise items value hvalue := by
    rw [listOfJson_of_lists hvalue, List.filterMap_eq_flatMap_toList]
  skipped front item behind hitem := by
    rw [listOfJson_of_lists (.inl rfl), listOfJson_of_lists (.inl rfl), List.filterMap_append,
      List.filterMap_cons_none hitem, List.filterMap_append]
  lacking item := ofJson?_eq_none_iff
  placed item line character line' character' hitem := exists_ofJson? hitem
  again item x hx := ofJson?_toJson_iff_counts hx
  fits item x hx := by
    obtain ⟨r, hr⟩ := exists_range_of_ofJson? hx
    rw [hr]
    exact ⟨r, rfl, d.counts_ofClient_iff r.start, d.counts_ofClient_iff r.stop⟩
  lost q hlast := ofClient_toClient_of_splitsLast hlast
  short hshort item x hx := by
    obtain ⟨r, hr⟩ := exists_range_of_ofJson? hx
    rw [ofJson?_toJson_iff_counts hx, hr]
    exact ⟨d.counts_ofClient hshort r.start, d.counts_ofClient hshort r.stop⟩

end Document

namespace SentDiagnosticsWitness

def document : Document := .ofText ⟨"/a"⟩ "rust" "a😀b\nc"

/-- A wide character and what is behind it, to the end of the next line. -/
def wide : Diagnostic := ⟨⟨⟨0, 1⟩, ⟨1, 1⟩⟩, some .hint, some "e1", some "s", "m"⟩

def bare : Diagnostic := ⟨⟨⟨1, 1⟩, ⟨0, 1⟩⟩, none, none, none, ""⟩

/-- A list in the parameters that a client sends. -/
def parameters : Json :=
  .object [("uri", .string "file:///a"),
    ("diagnostics", .array ([wide, bare].map (Diagnostic.toJson document)))]

/-- A diagnostic that ends inside the pair, with a number for its code. -/
def item : Json :=
  .object [("range", ClientRange.toJson ⟨⟨0, 0⟩, ⟨0, 2⟩⟩), ("code", .number (.int 42)),
    ("severity", .ofNat 9), ("message", .string "m")]

def rounded : Diagnostic := ⟨⟨⟨0, 0⟩, ⟨0, 2⟩⟩, none, some "42", none, "m"⟩

theorem lines_document : Text.lines document.chars = [['a', '😀', 'b'], ['c']] := by cbv

theorem hasPosition_first : document.HasPosition ⟨0, 1⟩ :=
  ⟨['a', '😀', 'b'], by cbv, by decide⟩

theorem hasPosition_last : document.HasPosition ⟨1, 1⟩ := ⟨['c'], by cbv, by decide⟩

theorem counts_first : document.Counts ⟨0, 1⟩ := by
  have hunits : Text.unitsBefore ((document.line? 0).getD []) 1 = 1 := by cbv
  exact ⟨by decide, hunits ▸ by decide⟩

theorem counts_last : document.Counts ⟨1, 1⟩ := by
  have hunits : Text.unitsBefore ((document.line? 1).getD []) 1 = 1 := by cbv
  exact ⟨by decide, hunits ▸ by decide⟩

theorem sendable : ∀ x ∈ [wide, bare], x.Sendable document := by
  intro x hx
  simp only [List.mem_cons, List.not_mem_nil, or_false] at hx
  rcases hx with rfl | rfl
  · exact ⟨⟨.inl hasPosition_first, .inl hasPosition_last⟩, counts_first, counts_last⟩
  · exact ⟨⟨.inl hasPosition_last, .inl hasPosition_first⟩, counts_last, counts_first⟩

theorem ofJson?_item : Diagnostic.ofJson? document item = some rounded := by cbv

/-- Sent as a member of parameters two diagnostics survive, one of them backwards; and what was read
from the half of a pair survives as well, although it is sent back with the whole of it. -/
theorem survive_parameters :
    (∀ x ∈ [wide, bare], x.Sendable document) ∧
      Diagnostic.listOfJson document parameters = [wide, bare] ∧
      Diagnostic.ofJson? document item = some rounded ∧
      Diagnostic.ofJson? document (rounded.toJson document) = some rounded := by
  have hkeeps := document.keepsDiagnostics
  have hshort : ∀ content ∈ Text.lines document.chars, Text.units content < 2 ^ 32 := by
    rw [lines_document]
    decide
  exact ⟨sendable, hkeeps.sent _ _ sendable (.inr rfl), ofJson?_item,
    hkeeps.short hshort item rounded ofJson?_item⟩

/-- A line of ordinary characters with a wide one at its end. -/
def longText (n : Nat) : List Char := List.replicate n 'a' ++ ['😀']

def longDocument (n : Nat) : Document := .ofText ⟨"/a"⟩ "rust" (String.ofList (longText n))

theorem line?_longText (n : Nat) : Text.line? (longText n) 0 = some (longText n) := by
  induction n with
  | zero => decide
  | succ n ih =>
      have hbreak : Text.isBreak 'a' = false := by decide
      rw [longText, List.replicate_succ, List.cons_append,
        Text.line?_cons_zero (by decide) (by decide), hbreak]
      exact congrArg (fun line => some ('a' :: line.getD [])) ih

theorem charsCovering_longText (n : Nat) : Text.charsCovering (longText n) (n + 1) = n + 1 := by
  induction n with
  | zero => decide
  | succ n ih =>
      rw [longText, List.replicate_succ, List.cons_append, Text.charsCovering_cons (by omega)]
      exact congrArg (· + 1) ih

theorem unitsBefore_longText (n : Nat) : Text.unitsBefore (longText n) n = n := by
  induction n with
  | zero => rfl
  | succ n ih =>
      rw [longText, List.replicate_succ, List.cons_append, Text.unitsBefore_cons_succ,
        ← longText, ih]
      exact Nat.add_comm 1 n

/-- The wide character is split by the number in front of its last code unit. -/
theorem splitsPair_longText (n : Nat) : Text.SplitsPair (longText n) (n + 1) := by
  refine ⟨n, '😀', ?_, by decide, congrArg (· + 1) (unitsBefore_longText n).symm⟩
  rw [longText, List.getElem?_append_right (by rw [List.length_replicate]),
    List.length_replicate, Nat.sub_self]
  rfl

theorem line?_longDocument (n : Nat) : ((longDocument n).line? 0).getD [] = longText n := by
  rw [Document.line?, longDocument, Document.ofText, String.toList_ofList, line?_longText,
    Option.getD_some]

theorem toNat_ofNat_last {n : Nat} (hn : n + 2 = 2 ^ 32) :
    (UInt32.ofNat (n + 1)).toNat = n + 1 := by
  apply UInt32.toNat_ofNat_of_lt'
  change n + 1 < 2 ^ 32
  omega

/-- The last number of a client, if the wide character ends just above it. -/
theorem splitsLast_longDocument {n : Nat} (hn : n + 2 = 2 ^ 32) :
    (longDocument n).SplitsLast ⟨0, .ofNat (n + 1)⟩ := by
  have hpair := splitsPair_longText n
  rw [← line?_longDocument n] at hpair
  rw [Document.SplitsLast, toNat_ofNat_last hn]
  exact ⟨hn, hpair⟩

theorem ofClient_longDocument {n : Nat} (hn : n + 2 = 2 ^ 32) :
    (longDocument n).ofClient ⟨0, .ofNat (n + 1)⟩ = ⟨0, n + 1⟩ := by
  rw [Document.ofClient, toNat_ofNat_last hn]
  exact congrArg (Position.mk 0)
    ((congrArg (Text.charsCovering · (n + 1)) (line?_longDocument n)).trans
      (charsCovering_longText n))

theorem ofClient_toClient_origin (d : Document) : d.ofClient (d.toClient ⟨0, 0⟩) = ⟨0, 0⟩ :=
  congrArg (Position.mk 0) (Text.charsCovering_zero _)

/-- An item with these numbers and no more than it needs. -/
def numbered (line character line' character' : Nat) : Json :=
  .object [("range", ClientNumbersWitness.range line character line' character'),
    ("message", .string "m")]

/-- What begins with its document and ends in the first line. -/
def ending (column : Nat) : Diagnostic := ⟨⟨⟨0, 0⟩, ⟨0, column⟩⟩, none, none, none, "m"⟩

theorem ofJson?_numbered (d : Document) (line character line' character' : Nat) :
    Diagnostic.ofJson? d (numbered line character line' character') =
      some ⟨⟨d.readAt line character, d.readAt line' character'⟩, none, none, none, "m"⟩ := rfl

theorem ofJson?_longDocument {n : Nat} (hn : n + 2 = 2 ^ 32) :
    Diagnostic.ofJson? (longDocument n) (numbered 0 0 0 (n + 1)) = some (ending (n + 1)) := by
  have hstart : (longDocument n).readAt 0 0 = ⟨0, 0⟩ := ofClient_toClient_origin (longDocument n)
  have hstop : (longDocument n).readAt 0 (n + 1) = ⟨0, n + 1⟩ := ofClient_longDocument hn
  rw [ofJson?_numbered, hstart, hstop, ending]

theorem ofJson?_toJson_longDocument {n : Nat} (hn : n + 2 = 2 ^ 32) :
    Diagnostic.ofJson? (longDocument n) ((ending (n + 1)).toJson (longDocument n)) =
      some (ending 0) := by
  have hlost := Document.ofClient_toClient_of_splitsLast (splitsLast_longDocument hn)
  rw [ofClient_longDocument hn] at hlost
  rw [Diagnostic.ofJson?_toJson_eq, Document.toClientRange, Document.ofClientRange, ending]
  simp only [ofClient_toClient_origin, hlost]
  rfl

/-- Not all that is read comes back: what ends at the last character of a line that is one code unit
too long is read again as empty. And no item is passed over for a line above the bound. -/
theorem not_kept_above_bound :
    Diagnostic.ofJson? (longDocument (2 ^ 32 - 2)) (numbered 0 0 0 (2 ^ 32 - 1)) =
        some (ending (2 ^ 32 - 1)) ∧
      Diagnostic.ofJson? (longDocument (2 ^ 32 - 2))
          ((ending (2 ^ 32 - 1)).toJson (longDocument (2 ^ 32 - 2))) = some (ending 0) ∧
      ending 0 ≠ ending (2 ^ 32 - 1) ∧
      Diagnostic.listOfJson (.ofText ⟨"/a"⟩ "rust" "a\nb\n")
        (.array [numbered (2 ^ 32) 0 (2 ^ 32) 1]) = [ending 1] := by
  have hn : 2 ^ 32 - 2 + 2 = 2 ^ 32 := by decide
  refine ⟨ofJson?_longDocument hn, ofJson?_toJson_longDocument hn, by decide, ?_⟩
  cbv

end SentDiagnosticsWitness

end QuickFix
