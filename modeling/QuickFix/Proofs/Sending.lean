import QuickFix.Lsp.Action
import QuickFix.Proofs.CodeUnits
import QuickFix.Proofs.Collision
import QuickFix.Proofs.Invocation
import QuickFix.Proofs.Uri

/-!
Edits that are sent to a client and read again. A position that a document has, or one in front of a
line past its end, is the only one with its client position, and absolute paths have URIs of their
own. So every path keeps its own member, and no edit is lost or moved.
-/

namespace QuickFix

namespace Document

variable {d : Document} {p : Position}

/-- Whether a position can be edited: one that the document has, or one in front of a line past its
end. -/
def Admits (d : Document) (p : Position) : Prop :=
  d.HasPosition p ∨ d.lineCount ≤ p.line ∧ p.column = 0

/-- Whether the numbers of a position fit into 32 bits. -/
structure Counts (d : Document) (p : Position) : Prop where
  line : p.line < 2 ^ 32
  units : Text.unitsBefore ((d.line? p.line).getD []) p.column < 2 ^ 32

theorem Admits.column_le (hadmits : d.Admits p) :
    p.column ≤ ((d.line? p.line).getD []).length := by
  rcases hadmits with ⟨text, htext, hcolumn⟩ | ⟨_, hcolumn⟩
  · rw [htext]
    exact hcolumn
  · rw [hcolumn]
    exact Nat.zero_le _

/-- The client's position means the position it was made for. -/
theorem ofClient_toClient (hadmits : d.Admits p) (hcounts : d.Counts p) :
    d.ofClient (d.toClient p) = p := by
  have hline : (UInt32.ofNat p.line).toNat = p.line := UInt32.toNat_ofNat_of_lt' hcounts.line
  simp only [ofClient, toClient, hline, UInt32.toNat_ofNat_of_lt' hcounts.units,
    Text.charsCovering_unitsBefore hadmits.column_le]

end Document

theorem ClientPosition.ofJson?_toJson (p : ClientPosition) : ofJson? p.toJson = some p := by
  have hread : ofJson? p.toJson = some ⟨.ofNat p.line.toNat, .ofNat p.character.toNat⟩ := rfl
  rw [hread, UInt32.ofNat_toNat, UInt32.ofNat_toNat]

theorem ClientRange.ofJson?_toJson (r : ClientRange) : ofJson? r.toJson = some r := by
  have hread : ofJson? r.toJson = (ClientPosition.ofJson? r.start.toJson).bind fun start =>
    (ClientPosition.ofJson? r.stop.toJson).bind fun stop => some ⟨start, stop⟩ := rfl
  rw [hread, ClientPosition.ofJson?_toJson, ClientPosition.ofJson?_toJson]
  rfl

namespace TextEdit

/-- Whether something holds where an edit begins and where it ends. -/
def AtEnds (edit : TextEdit) (P : Position → Prop) : Prop :=
  P edit.range.start ∧ P edit.range.stop

/-- Reads an edit of a document. -/
def ofJson? (d : Document) (value : Json) : Option TextEdit := do
  let range ← ClientRange.ofJson? (← value.get? "range")
  let newText ← (← value.get? "newText").text?
  return ⟨d.ofClientRange range, newText⟩

theorem ofJson?_toJson {d : Document} {edit : TextEdit} (hadmits : edit.AtEnds d.Admits)
    (hcounts : edit.AtEnds d.Counts) : ofJson? d (edit.toJson (some d)) = some edit := by
  have hrange : d.ofClientRange (d.toClientRange edit.range) = edit.range := by
    simp only [Document.ofClientRange, Document.toClientRange,
      Document.ofClient_toClient hadmits.1 hcounts.1, Document.ofClient_toClient hadmits.2 hcounts.2]
  have hread : ofJson? d (edit.toJson (some d)) =
      (ClientRange.ofJson? (d.toClientRange edit.range).toJson).bind fun range =>
        some ⟨d.ofClientRange range, edit.newText⟩ := rfl
  rw [hread, ClientRange.ofJson?_toJson, Option.bind_some, hrange]

end TextEdit

theorem mapM_map_eq_some {α β : Type} {f : β → Option α} {g : α → β} {l : List α}
    (hread : ∀ a ∈ l, f (g a) = some a) : (l.map g).mapM f = some l := by
  induction l with
  | nil => rfl
  | cons a rest ih =>
      have hrest := ih fun b hb => hread b (List.mem_cons_of_mem a hb)
      simp only [List.map_cons, List.mapM_cons, hread a List.mem_cons_self, hrest]
      rfl

namespace Json

theorem setMember_of_not_mem {key : String} {members : List (String × Json)}
    (hkey : key ∉ members.map Prod.fst) (value : Json) :
    setMember key value members = members ++ [(key, value)] := by
  induction members with
  | nil => rfl
  | cons m rest ih =>
      obtain ⟨k, v⟩ := m
      rw [List.map_cons, List.mem_cons, not_or] at hkey
      rw [setMember, if_neg (Ne.symm hkey.1), ih hkey.2, List.cons_append]

theorem foldl_setMember_of_nodup {front behind : List (String × Json)}
    (hkeys : ((front ++ behind).map Prod.fst).Nodup) :
    behind.foldl (fun members pair => setMember pair.1 pair.2 members) front =
      front ++ behind := by
  induction behind generalizing front with
  | nil => exact (List.append_nil front).symm
  | cons pair behind ih =>
      have hkey : pair.1 ∉ front.map Prod.fst := by
        intro hmem
        rw [List.map_append, List.nodup_append] at hkeys
        exact hkeys.2.2 pair.1 hmem pair.1 List.mem_cons_self rfl
      have hkeys' : ((front ++ [pair] ++ behind).map Prod.fst).Nodup := by
        rwa [List.append_assoc]
      rw [List.foldl_cons, setMember_of_not_mem hkey, ih hkeys', List.append_assoc]
      rfl

/-- Pairs with keys of their own all become members, in their order. -/
theorem membersOf_of_nodup {pairs : List (String × Json)}
    (hnodup : (pairs.map Prod.fst).Nodup) : membersOf pairs = pairs := by
  apply foldl_setMember_of_nodup
  exact hnodup

end Json

/-- The member for the edits of one document. -/
def FileEdits.toMember (source : DocumentSource) (workingDirectory : Option Path)
    (file : FileEdits) : String × Json :=
  (Uri.ofPath file.path workingDirectory,
    .array (file.edits.map (TextEdit.toJson (source.find? file.path))))

/-- Reads the edits of one document, which is found by its URI. -/
def FileEdits.ofMember? (source : DocumentSource) (member : String × Json) :
    Option FileEdits := do
  let path ← Uri.path? member.1
  let d ← source.find? path
  match member.2 with
  | .array items => return ⟨path, ← items.mapM (TextEdit.ofJson? d)⟩
  | _ => none

namespace WorkspaceEdit

variable {source : DocumentSource} {edit : WorkspaceEdit}

/-- Whether all documents of an edit are open, and every edit begins and ends where its document
admits it. -/
def Placed (source : DocumentSource) (edit : WorkspaceEdit) : Prop :=
  ∀ file ∈ edit.files, ∃ d, source.find? file.path = some d ∧
    ∀ made ∈ file.edits, made.AtEnds d.Admits

/-- Whether an edit can be sent: the paths are absolute, and no number is too large. -/
structure Sendable (source : DocumentSource) (edit : WorkspaceEdit) : Prop where
  wellFormed : edit.WellFormed
  absolute : ∀ file ∈ edit.files, file.path.isAbsolute = true
  placed : edit.Placed source
  counted : ∀ file ∈ edit.files, ∀ d, source.find? file.path = some d →
    ∀ made ∈ file.edits, made.AtEnds d.Counts

/-- What becomes of an edit that is sent: there is one member for each path, and the members are
read as the paths and edits that were sent, in their order. -/
def Arrives (source : DocumentSource) (edit : WorkspaceEdit) : Prop :=
  ∀ workingDirectory : Option Path, ∃ members : List (String × Json),
    edit.toJson source workingDirectory = .object [("changes", .object members)] ∧
      members.map Prod.fst = edit.paths.map (Uri.ofPath · workingDirectory) ∧
      (members.map Prod.fst).Nodup ∧
      members.mapM (FileEdits.ofMember? source) = some edit.files

theorem Sendable.nodup (hsendable : edit.Sendable source) (workingDirectory : Option Path) :
    (edit.paths.map (Uri.ofPath · workingDirectory)).Nodup := by
  rw [paths, List.map_map, List.Nodup, List.pairwise_map]
  apply List.Pairwise.imp_of_mem _ (files_pairwise_ne hsendable.wellFormed)
  intro a b ha hb hne heq
  have hpath : a.path = b.path :=
    Uri.ofPath_inj (hsendable.absolute a ha) (hsendable.absolute b hb) heq
  exact hne (congrArg Path.components hpath)

/-- An edit that can be sent arrives as it is. -/
theorem Sendable.arrives (hsendable : edit.Sendable source) : edit.Arrives source := by
  intro workingDirectory
  let members := edit.files.map (FileEdits.toMember source workingDirectory)
  have hkeys : members.map Prod.fst = edit.paths.map (Uri.ofPath · workingDirectory) := by
    rw [paths, List.map_map, List.map_map]
    rfl
  have hnodup : (members.map Prod.fst).Nodup := hkeys ▸ hsendable.nodup workingDirectory
  refine ⟨members, ?_, hkeys, hnodup, mapM_map_eq_some fun file hfile => ?_⟩
  · exact congrArg (fun members => Json.object [("changes", .object members)])
      (Json.membersOf_of_nodup hnodup)
  · obtain ⟨d, hd, hadmits⟩ := hsendable.placed file hfile
    have hcounts := hsendable.counted file hfile d hd
    have hedits : (file.edits.map (TextEdit.toJson (some d))).mapM (TextEdit.ofJson? d) =
        some file.edits :=
      mapM_map_eq_some fun made hmade =>
        TextEdit.ofJson?_toJson (hadmits made hmade) (hcounts made hmade)
    simp only [FileEdits.ofMember?, FileEdits.toMember,
      Uri.path?_ofPath (hsendable.absolute file hfile) workingDirectory, hd, hedits, Option.bind_eq_bind,
      Option.bind_some, Option.pure_def]

/-- Whether every edit was made for a document that the source hands out, on one line and where the
document admits it. -/
def Made (source : DocumentSource) (edit : WorkspaceEdit) : Prop :=
  ∀ file ∈ edit.files, ∀ made ∈ file.edits, ∃ d, source.Offers d ∧
    d.path.components = file.path.components ∧ made.OnOneLine ∧ made.AtEnds d.Admits

end WorkspaceEdit

/-- Whether a source finds what it hands out, by every path that means the same. -/
def DocumentSource.Coherent (source : DocumentSource) : Prop :=
  ∀ d, source.Offers d → ∀ path : Path, d.path.components = path.components →
    source.find? path = some d

theorem Workspace.source_coherent (operations : List Operation) :
    (afterAll operations).source.Coherent := by
  intro d hoffer path hpath
  have hfound := getElem?_of_offers (afterAll_keyed operations) hoffer
  rw [hpath] at hfound
  exact hfound

theorem WorkspaceEdit.Made.placed {source : DocumentSource} {edit : WorkspaceEdit}
    (hmade : edit.Made source) (hedit : edit.WellFormed) (hcoherent : source.Coherent) :
    edit.Placed source := by
  intro file hfile
  have hne : file.edits ≠ [] := (hedit _ file (getElem?_of_mem_files hedit hfile)).2
  obtain ⟨first, hfirst⟩ := List.exists_mem_of_ne_nil file.edits hne
  obtain ⟨d, hoffer, hpath, _⟩ := hmade file hfile first hfirst
  have hfound := hcoherent d hoffer file.path hpath
  refine ⟨d, hfound, fun made hmem => ?_⟩
  obtain ⟨other, hother, hsame, _, hadmits⟩ := hmade file hfile made hmem
  have heq : other = d :=
    Option.some.inj ((hcoherent other hother file.path hsame).symm.trans hfound)
  exact heq ▸ hadmits

/-- An insertion is in front of a line, and the document admits that for every line. -/
theorem Document.admits_column_zero (d : Document) (line : Nat) : d.Admits ⟨line, 0⟩ := by
  by_cases hline : line < d.lineCount
  · obtain ⟨content, hcontent⟩ := Text.exists_line? hline
    exact .inl ⟨content, hcontent, Nat.zero_le _⟩
  · exact .inr ⟨Nat.le_of_not_lt hline, rfl⟩

theorem TextEdit.BeforeLine.atEnds {edit : TextEdit} (hedit : edit.BeforeLine) (d : Document) :
    edit.AtEnds d.Admits := by
  obtain ⟨line, hrange⟩ := hedit
  rw [AtEnds, hrange]
  exact ⟨d.admits_column_zero line, d.admits_column_zero line⟩

/-- A step makes its edit where its document admits it. -/
theorem StepContext.Makes.exists_atEnds {ctx : StepContext} {steps : List EditStep}
    {k : List Component} {made : TextEdit} (hmakes : ctx.Makes steps k made) :
    ∃ step ∈ steps, ∃ d, ctx.target step = .ok d ∧ d.path.components = k ∧
      made.OnOneLine ∧ made.AtEnds d.Admits := by
  rcases hmakes.inserts_or_replaces with hinserts | hreplaces
  · have hbefore := hinserts.beforeLine
    obtain ⟨step, hstep, d, _, _, htarget, hpath, _⟩ := hinserts
    exact ⟨step, hstep, d, htarget, hpath, hbefore.onOneLine, hbefore.atEnds d⟩
  · have hline := hreplaces.onOneLine
    obtain ⟨step, hstep, d, m, htarget, hpath, hfinds, rfl⟩ := hreplaces
    have hrange := hfinds.standsFor.hasRange
    exact ⟨step, hstep, d, htarget, hpath, hline, .inl hrange.start, .inl hrange.stop⟩

namespace Engine

variable {e : Engine} {action : CandidateAction} {source : DocumentSource} {edit : WorkspaceEdit}

theorem exists_of_resolve_edit (hedit : (e.resolve action source).2.edit = some edit) :
    ∃ r active, source.active = some active ∧ action.resolveEdits source = .ok r ∧
      r.edit = edit := by
  rcases e.resolve_cases action source with ⟨error, hresolve⟩ | ⟨r, hok, hresolve⟩
  · rw [hresolve] at hedit
    cases hedit
  · rw [hresolve] at hedit
    cases hactive : source.active with
    | none => simp [CandidateAction.resolveEdits, hactive] at hok
    | some active => exact ⟨r, active, rfl, hok, Option.some.inj hedit⟩

/-- What a resolution attaches was made by its steps, each in its document. -/
theorem made_of_resolve (hedit : (e.resolve action source).2.edit = some edit) :
    edit.WellFormed ∧ edit.Made source := by
  obtain ⟨r, active, hactive, hok, rfl⟩ := exists_of_resolve_edit hedit
  have hwell := CandidateAction.resolveEdits_wellFormed hok
  refine ⟨hwell, fun file hfile made hmade => ?_⟩
  have hchange := WorkspaceEdit.getElem?_of_mem_files hwell hfile
  have hmakes := CandidateAction.resolveEdits_makes hactive hok hchange hmade
  obtain ⟨_, _, d, htarget, hpath, hadmits⟩ := hmakes.exists_atEnds
  refine ⟨d, ?_, hpath, hadmits⟩
  rcases StepContext.target_offered htarget with rfl | hfound
  · exact .inl hactive
  · exact .inr hfound

/-- An edit that can be sent arrives as it is, and one that a resolution attaches can be sent as far
as its places go. -/
theorem arrives_and_made (e : Engine) (action : CandidateAction) (source : DocumentSource)
    (edit : WorkspaceEdit) :
    (edit.Sendable source → edit.Arrives source) ∧
      ((e.resolve action source).2.edit = some edit →
        edit.Made source ∧ (source.Coherent → edit.Placed source)) := by
  refine ⟨fun hsendable => hsendable.arrives, fun hedit => ?_⟩
  obtain ⟨hwell, hmade⟩ := made_of_resolve hedit
  exact ⟨hmade, hmade.placed hwell⟩

end Engine

namespace SendingWitness

def operations : List Workspace.Operation :=
  [.openDocument ⟨"/é b"⟩ "rust" "a😀b", .openDocument ⟨"/x"⟩ "rust" "x"]

def source : DocumentSource := (Workspace.afterAll operations).source

/-- A replacement behind a character of two code units, and an insertion behind the last line. -/
def rule : Rule :=
  ⟨"t", [], none, [.replace "b" "c", ((EditStep.insert "q").anchored .afterLast "x").inFile "x"],
    none, true⟩

def action : CandidateAction := ⟨"t", "rust", ⟨"/é b"⟩, rule, ⟨none, none⟩, {}, none⟩

def serving : Engine := (({} : Engine).reload ⟨{}, [⟨["rust"], [rule]⟩]⟩).1

def replaced : FileEdits := ⟨⟨"/é b"⟩, [.replace ⟨⟨0, 2⟩, ⟨0, 3⟩⟩ "c"]⟩

def inserted : FileEdits := ⟨⟨"/x"⟩, [.insert ⟨1, 0⟩ "\nq"]⟩

def edit : WorkspaceEdit :=
  (WorkspaceEdit.empty.push replaced.path (.replace ⟨⟨0, 2⟩, ⟨0, 3⟩⟩ "c")).push inserted.path
    (.insert ⟨1, 0⟩ "\nq")

theorem resolve_action : (serving.resolve action source).2.edit = some edit := by cbv

theorem files_edit : edit.files = [inserted, replaced] := by cbv

def opened : Document := .ofText ⟨"/é b"⟩ "rust" "a😀b"

def other : Document := .ofText ⟨"/x"⟩ "rust" "x"

theorem counts_opened : opened.Counts ⟨0, 2⟩ ∧ opened.Counts ⟨0, 3⟩ := by
  have hbefore : Text.unitsBefore ((opened.line? 0).getD []) 2 = 3 := by cbv
  have hbehind : Text.unitsBefore ((opened.line? 0).getD []) 3 = 4 := by cbv
  exact ⟨⟨by decide, by rw [hbefore]; decide⟩, ⟨by decide, by rw [hbehind]; decide⟩⟩

theorem counts_other : other.Counts ⟨1, 0⟩ := by
  have hunits : Text.unitsBefore ((other.line? 1).getD []) 0 = 0 := rfl
  exact ⟨by decide, by rw [hunits]; decide⟩

theorem counted : ∀ file ∈ edit.files, ∀ d, source.find? file.path = some d →
    ∀ made ∈ file.edits, made.AtEnds d.Counts := by
  have hopened : source.find? replaced.path = some opened := by cbv
  have hother : source.find? inserted.path = some other := by cbv
  intro file hfile d hd made hmade
  simp only [files_edit, List.mem_cons, List.not_mem_nil, or_false] at hfile
  rcases hfile with rfl | rfl
  · obtain rfl := Option.some.inj (hother.symm.trans hd)
    obtain rfl := List.mem_singleton.mp hmade
    exact ⟨counts_other, counts_other⟩
  · obtain rfl := Option.some.inj (hopened.symm.trans hd)
    obtain rfl := List.mem_singleton.mp hmade
    exact counts_opened

/-- Two paths, two members: what was found behind a wide character and a line that has yet to come
are read as they were. -/
theorem sent_edit :
    (serving.resolve action source).2.edit = some edit ∧ edit.Sendable source ∧
      ∃ members : List (String × Json),
        edit.toJson source = .object [("changes", .object members)] ∧
          members.map Prod.fst = ["file:///x", "file:///%C3%A9%20b"] ∧
          members.mapM (FileEdits.ofMember? source) = some [inserted, replaced] := by
  have hsound := serving.arrives_and_made action source edit
  have hplaced := (hsound.2 resolve_action).2 (Workspace.source_coherent operations)
  have hsendable : edit.Sendable source := {
    wellFormed := (Engine.made_of_resolve resolve_action).1
    absolute := by
      simp only [files_edit, List.mem_cons, List.not_mem_nil, or_false, forall_eq_or_imp, forall_eq]
      exact ⟨rfl, rfl⟩
    placed := hplaced
    counted := counted }
  obtain ⟨members, hjson, hkeys, _, hread⟩ := hsound.1 hsendable none
  have huris : edit.paths.map (Uri.ofPath · none) = ["file:///x", "file:///%C3%A9%20b"] := by
    rw [WorkspaceEdit.paths, files_edit]
    cbv
  exact ⟨resolve_action, hsendable, members, hjson, hkeys.trans huris, files_edit ▸ hread⟩

end SendingWitness

end QuickFix
