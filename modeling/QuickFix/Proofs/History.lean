import QuickFix.Proofs.Convergence

/-!
Workspaces over whole histories of calls, invocations among them. Some document is active as long as
any is open, and every document is found at its own path, however the paths were spelled. A call
that is refused changes nothing. While a document stays open its version only rises, and its text
changes only with the version, until there are no more versions.
-/

namespace QuickFix

namespace Document

/-- What may become of a document while it stays open. -/
structure Ages (before after : Document) : Prop where
  path : after.path = before.path
  language : after.language = before.language
  version : before.version ≤ after.version
  version_le : after.version ≤ maxVersion
  text : after.chars ≠ before.chars →
    before.version < after.version ∨ before.version = maxVersion

theorem Ages.refl {d : Document} (hversion : d.version ≤ maxVersion) : d.Ages d :=
  ⟨rfl, rfl, Nat.le_refl _, hversion, fun hne => absurd rfl hne⟩

theorem Ages.trans {a b c : Document} (hab : a.Ages b) (hbc : b.Ages c) : a.Ages c where
  path := hbc.path.trans hab.path
  language := hbc.language.trans hab.language
  version := Nat.le_trans hab.version hbc.version
  version_le := hbc.version_le
  text hne := by
    have hfirst := hab.version
    have hsecond := hbc.version
    have hlast := hab.version_le
    by_cases hb : b.chars = a.chars
    · rw [← hb] at hne
      have htext := hbc.text hne
      omega
    · have htext := hab.text hb
      omega

/-- A batch of edits, if there are any in it, counts as one version. -/
theorem applyEdits_ages {d : Document} (hversion : d.version ≤ maxVersion)
    (edits : List TextEdit) : d.Ages (d.applyEdits edits).1 := by
  by_cases hedits : edits = []
  · rw [hedits, applyEdits_nil]
    exact .refl hversion
  · have hbump := d.version_applyEdits hedits
    rw [bump] at hbump
    exact ⟨rfl, rfl, by omega, by omega, fun _ => by omega⟩

end Document

namespace Workspace

variable {w : Workspace} {documents : PathMap Document} {k : List Component} {d : Document}

/-- Whether no document has a version beyond the last. -/
def Versioned (documents : PathMap Document) : Prop :=
  ∀ (k : List Component) (d : Document), documents[k]? = some d → d.version ≤ maxVersion

theorem exists_ages_foldl_applyTo (files : List FileEdits) (hd : documents[k]? = some d)
    (hversion : d.version ≤ maxVersion) :
    ∃ later, (files.foldl applyTo documents)[k]? = some later ∧ d.Ages later := by
  induction files generalizing documents d with
  | nil => exact ⟨d, hd, .refl hversion⟩
  | cons file rest ih =>
      have hfile := getElem?_applyTo documents file k
      rw [hd] at hfile
      by_cases hk : file.path.components = k
      · rw [if_pos hk, Option.map_some] at hfile
        have hages := Document.applyEdits_ages hversion file.edits
        obtain ⟨later, hlater, hrest⟩ := ih hfile hages.version_le
        exact ⟨later, hlater, hages.trans hrest⟩
      · rw [if_neg hk] at hfile
        exact ih hfile hversion

theorem getElem?_foldl_applyTo_of_none (files : List FileEdits) (hnone : documents[k]? = none) :
    (files.foldl applyTo documents)[k]? = none := by
  induction files generalizing documents with
  | nil => exact hnone
  | cons file rest ih =>
      apply ih
      rw [getElem?_applyTo, hnone]
      split <;> rfl

/-- What the operations keep: documents stand at their own paths, none is beyond the last version,
and the path that is active leads to an open document, if there are any. -/
structure Intact (w : Workspace) : Prop where
  keyed : Keyed w.documents
  versioned : Versioned w.documents
  active : ∀ path, w.active = some path → ∃ d, w.document? path = some d
  inactive : w.active = none → ∀ k : List Component, w.documents[k]? = none

theorem empty_intact : Intact {} where
  keyed k d hd := by simp at hd
  versioned k d hd := by simp at hd
  active path hpath := nomatch hpath
  inactive _ k := by simp

theorem Intact.openDocument (hintact : w.Intact) {path : Path} {language text : String}
    {w' : Workspace} (hok : w.openDocument path language text = .ok w') : w'.Intact := by
  have hkeyed := perform_keyed hintact.keyed (.openDocument path language text)
  simp only [perform, hok, Except.toOption, Option.getD_some] at hkeyed
  simp only [Workspace.openDocument] at hok
  split at hok
  · cases hok
  · obtain rfl := Except.ok.inj hok
    refine ⟨hkeyed, fun k d hd => ?_, fun active hactive => ?_, fun hnone => ?_⟩
    · rw [Std.TreeMap.getElem?_insert] at hd
      split at hd
      · obtain rfl := Option.some.inj hd
        exact Nat.zero_le _
      · exact hintact.versioned k d hd
    · rw [document?, Std.TreeMap.getElem?_insert]
      split
      · exact ⟨_, rfl⟩
      · rename_i hne
        rcases Option.or_eq_some_iff.mp hactive with hold | ⟨_, hnew⟩
        · exact hintact.active active hold
        · obtain rfl := Option.some.inj hnew
          simp at hne
    · simp at hnone

/-- The path of the first document leads to a document, and is missing only if there is none. -/
theorem head?_values_elects (hkeyed : Keyed documents) :
    (∀ path, documents.values.head?.map Document.path = some path →
      ∃ d, documents[path.components]? = some d) ∧
    (documents.values.head?.map Document.path = none →
      ∀ k : List Component, documents[k]? = none) := by
  constructor
  · intro path hpath
    obtain ⟨d, hhead, rfl⟩ := Option.map_eq_some_iff.mp hpath
    obtain ⟨k, hk⟩ := (mem_values_iff _ d).mp (List.mem_of_head? hhead)
    exact ⟨d, by rw [hkeyed k d hk, hk]⟩
  · intro hnone k
    rw [Option.map_eq_none_iff, List.head?_eq_none_iff] at hnone
    refine Option.eq_none_iff_forall_ne_some.mpr fun d hd => ?_
    have hmem := (mem_values_iff _ d).mpr ⟨k, hd⟩
    simp [hnone] at hmem

theorem Intact.closeDocument (hintact : w.Intact) {path : Path} {w' : Workspace}
    (hok : w.closeDocument path = .ok w') : w'.Intact := by
  have hkeyed := perform_keyed hintact.keyed (.closeDocument path)
  simp only [perform, hok, Except.toOption, Option.getD_some] at hkeyed
  have herase : ∀ k : List Component, (w.documents.erase path.components)[k]? =
      if path.components = k then none else w.documents[k]? := by
    intro k
    simp only [Std.TreeMap.getElem?_erase, Std.LawfulEqCmp.compare_eq_iff_eq]
  simp only [Workspace.closeDocument] at hok
  split at hok
  · obtain rfl := Except.ok.inj hok
    obtain ⟨helected, hnobody⟩ := head?_values_elects hkeyed
    have hversioned : Versioned (w.documents.erase path.components) := by
      intro k d hd
      rw [herase] at hd
      split at hd
      · cases hd
      · exact hintact.versioned k d hd
    by_cases hwas : (w.active.any fun p => p.components = path.components) = true
    · simp only [hwas, ↓reduceIte]
      exact ⟨hkeyed, hversioned, helected, hnobody⟩
    · simp only [hwas, Bool.false_eq_true, ↓reduceIte]
      refine ⟨hkeyed, hversioned, fun active hactive => ?_, fun hnone k => ?_⟩
      · have hactive : w.active = some active := hactive
        have hne : path.components ≠ active.components := by
          intro heq
          simp [hactive, heq] at hwas
        obtain ⟨d, hd⟩ := hintact.active active hactive
        exact ⟨d, by rw [document?, herase, if_neg hne]; exact hd⟩
      · rw [herase, hintact.inactive hnone k, ite_self]
  · cases hok

/-- Whether a workspace differs by edits of its documents at most, and by which one is active. -/
structure Retouches (w w' : Workspace) : Prop where
  documents : ∃ files : List FileEdits, w'.documents = files.foldl applyTo w.documents
  active : w'.active = w.active ∨ ∃ path, w'.active = some path ∧ w.isOpen path = true

theorem Retouches.of_eq {w' : Workspace} (hdocuments : w'.documents = w.documents)
    (hactive : w'.active = w.active) : w.Retouches w' := ⟨⟨[], hdocuments⟩, .inl hactive⟩

theorem Intact.retouches (hintact : w.Intact) {w' : Workspace} (hretouches : w.Retouches w') :
    w'.Intact := by
  obtain ⟨⟨files, hdocuments⟩, hactive⟩ := hretouches
  have hlater : ∀ (k : List Component) old, w.documents[k]? = some old →
      ∃ later, w'.documents[k]? = some later ∧ old.Ages later := by
    intro k old hold
    rw [hdocuments]
    exact exists_ages_foldl_applyTo files hold (hintact.versioned k old hold)
  have hclosed : ∀ k : List Component, w.documents[k]? = none → w'.documents[k]? = none := by
    intro k hnone
    rw [hdocuments]
    exact getElem?_foldl_applyTo_of_none files hnone
  refine ⟨hdocuments ▸ foldl_applyTo_keyed hintact.keyed files, fun k d hd => ?_,
    fun path hpath => ?_, fun hnone k => hclosed k ?_⟩
  · cases hold : w.documents[k]? with
    | none => exact nomatch (hclosed k hold).symm.trans hd
    | some old =>
        obtain ⟨later, hsome, hages⟩ := hlater k old hold
        obtain rfl := Option.some.inj (hsome.symm.trans hd)
        exact hages.version_le
  · have hopen : ∃ d, w.document? path = some d := by
      rcases hactive with hsame | ⟨path', hpath', hopen⟩
      · exact hintact.active path (hsame.symm.trans hpath)
      · obtain rfl := Option.some.inj (hpath'.symm.trans hpath)
        exact isOpen_iff.mp hopen
    obtain ⟨d, hd⟩ := hopen
    obtain ⟨later, hsome, _⟩ := hlater path.components d hd
    exact ⟨later, hsome⟩
  · rcases hactive with hsame | ⟨path, hpath, _⟩
    · exact hintact.inactive (hsame.symm.trans hnone) k
    · exact nomatch hpath.symm.trans hnone

/-- What can be called: an operation, or an engine that invokes an action. -/
inductive Call where
  | operation (operation : Operation)
  | invoke (engine : Engine) (action : CandidateAction)

/-- What comes of an operation. -/
def tryOperation (w : Workspace) : Operation → Except WorkspaceError Workspace
  | .openDocument path language text => w.openDocument path language text
  | .closeDocument path => w.closeDocument path
  | .setActive path => w.setActive path
  | .addRoot root => .ok (w.addRoot root)
  | .setAcceptsPrompts accepts => .ok (w.setAcceptsPrompts accepts)
  | .takeMessages => .ok w.takeMessages.1
  | .applyEdit edit => w.applyEdit edit
  | .showMessage message => .ok (w.showMessage message).1
  | .requestOpen path => .ok (w.requestOpen path)

/-- What comes of a call. -/
def tryCall (w : Workspace) : Call → Except WorkspaceError Workspace
  | .operation operation => w.tryOperation operation
  | .invoke engine action => (engine.invoke action w).map Invocation.workspace

/-- The workspace behind a call, which is the one before if the call is refused. -/
def afterCall (w : Workspace) (call : Call) : Workspace := (w.tryCall call).toOption.getD w

/-- The workspace that calls in a row reach from the empty one. -/
def history (calls : List Call) : Workspace := calls.foldl afterCall {}

theorem afterCall_of_ok {w' : Workspace} {call : Call} (hok : w.tryCall call = .ok w') :
    w.afterCall call = w' := by
  rw [afterCall, hok]
  rfl

/-- An invocation is never refused, and all it does to documents are edits. -/
theorem exists_invoke_eq_ok (hkeyed : Keyed w.documents) (engine : Engine)
    (action : CandidateAction) :
    ∃ inv, engine.invoke action w = .ok inv ∧ w.Retouches inv.workspace := by
  obtain ⟨inv, hok, ⟨_, hactive, _, hdocuments⟩ | ⟨r, _, _, hcarried⟩⟩ :=
    engine.invoke_cases action hkeyed
  · exact ⟨inv, hok, .of_eq hdocuments hactive⟩
  · exact ⟨inv, hok, ⟨r.edit.files, hcarried.documents⟩, .inl hcarried.active⟩

theorem tryOperation_cases {operation : Operation} {w' : Workspace}
    (hok : w.tryOperation operation = .ok w') :
    (∃ path language text, w.openDocument path language text = .ok w') ∨
      (∃ path, w.closeDocument path = .ok w') ∨ w.Retouches w' := by
  cases operation with
  | openDocument path language text => exact .inl ⟨path, language, text, hok⟩
  | closeDocument path => exact .inr (.inl ⟨path, hok⟩)
  | setActive path =>
      simp only [tryOperation, setActive] at hok
      split at hok
      · rename_i hopen
        obtain rfl := Except.ok.inj hok
        exact .inr (.inr ⟨⟨[], rfl⟩, .inr ⟨path, rfl, hopen⟩⟩)
      · cases hok
  | applyEdit edit =>
      simp only [tryOperation, applyEdit] at hok
      split at hok
      · cases hok
      · obtain rfl := Except.ok.inj hok
        exact .inr (.inr ⟨⟨edit.files, rfl⟩, .inl rfl⟩)
  | addRoot root => exact .inr (.inr (Except.ok.inj hok ▸ .of_eq rfl rfl))
  | setAcceptsPrompts accepts => exact .inr (.inr (Except.ok.inj hok ▸ .of_eq rfl rfl))
  | takeMessages => exact .inr (.inr (Except.ok.inj hok ▸ .of_eq rfl rfl))
  | showMessage message => exact .inr (.inr (Except.ok.inj hok ▸ .of_eq rfl rfl))
  | requestOpen path => exact .inr (.inr (Except.ok.inj hok ▸ .of_eq rfl rfl))

/-- Whatever is called, a document was opened, or one was closed, or there were edits at most. -/
theorem afterCall_cases (hkeyed : Keyed w.documents) (call : Call) :
    (∃ path language text, w.openDocument path language text = .ok (w.afterCall call)) ∨
      (∃ path, w.closeDocument path = .ok (w.afterCall call)) ∨
        w.Retouches (w.afterCall call) := by
  cases htry : w.tryCall call with
  | error error =>
      have hsame : w.afterCall call = w := by
        rw [afterCall, htry]
        rfl
      exact .inr (.inr (hsame.symm ▸ .of_eq rfl rfl))
  | ok w' =>
      rw [afterCall_of_ok htry]
      cases call with
      | operation operation => exact tryOperation_cases htry
      | invoke engine action =>
          obtain ⟨inv, hok, hretouches⟩ := exists_invoke_eq_ok hkeyed engine action
          rw [tryCall, hok] at htry
          exact .inr (.inr (Except.ok.inj htry ▸ hretouches))

theorem Intact.afterCall (hintact : w.Intact) (call : Call) : (w.afterCall call).Intact := by
  rcases afterCall_cases hintact.keyed call with ⟨path, language, text, hok⟩ | ⟨path, hok⟩ |
    hretouches
  · exact hintact.openDocument hok
  · exact hintact.closeDocument hok
  · exact hintact.retouches hretouches

theorem Intact.foldl_afterCall (hintact : w.Intact) (calls : List Call) :
    (calls.foldl Workspace.afterCall w).Intact := by
  induction calls generalizing w with
  | nil => exact hintact
  | cons call rest ih => exact ih (hintact.afterCall call)

theorem Intact.ages_afterCall (hintact : w.Intact) (call : Call) {path : Path} {d' : Document}
    (hd : w.document? path = some d) (hd' : (w.afterCall call).document? path = some d') :
    d.Ages d' := by
  have hversion := hintact.versioned _ d hd
  have hsame : w.document? path = some d' → d.Ages d' := fun hsome =>
    Option.some.inj (hd.symm.trans hsome) ▸ .refl hversion
  rcases afterCall_cases hintact.keyed call with ⟨opened, language, text, hok⟩ |
    ⟨closed, hok⟩ | ⟨⟨files, hdocuments⟩, _⟩
  · simp only [Workspace.openDocument] at hok
    split at hok
    · cases hok
    · rename_i hclosed
      rw [← Except.ok.inj hok, document?, Std.TreeMap.getElem?_insert] at hd'
      split at hd'
      · rename_i heq
        rw [Std.LawfulEqCmp.compare_eq_iff_eq] at heq
        exact absurd (isOpen_iff.mpr ⟨d, by rw [document?, heq]; exact hd⟩) hclosed
      · exact hsame hd'
  · simp only [Workspace.closeDocument] at hok
    split at hok
    · rw [← Except.ok.inj hok, document?, Std.TreeMap.getElem?_erase] at hd'
      split at hd'
      · cases hd'
      · exact hsame hd'
    · cases hok
  · obtain ⟨later, hlater, hages⟩ := exists_ages_foldl_applyTo files hd hversion
    rw [document?, hdocuments, hlater] at hd'
    exact Option.some.inj hd' ▸ hages

/-- A document ages over any number of calls behind none of which it is closed. -/
theorem Intact.ages_foldl_afterCall (hintact : w.Intact) {path : Path} (calls : List Call)
    (hd : w.document? path = some d)
    (hopen : ∀ front, front <+: calls →
      (front.foldl Workspace.afterCall w).isOpen path = true) :
    ∃ later, (calls.foldl Workspace.afterCall w).document? path = some later ∧ d.Ages later := by
  induction calls generalizing w d with
  | nil => exact ⟨d, hd, .refl (hintact.versioned _ d hd)⟩
  | cons call rest ih =>
      obtain ⟨next, hnext⟩ := isOpen_iff.mp (hopen [call] ⟨rest, rfl⟩)
      have hfirst := hintact.ages_afterCall call hd hnext
      obtain ⟨later, hlater, hrest⟩ := ih (hintact.afterCall call) hnext
        fun front hfront => hopen (call :: front) ((List.prefix_cons_inj call).mpr hfront)
      exact ⟨later, hlater, hfirst.trans hrest⟩

/-- When a call is refused, and what the error says: a document is open already, or the first one
that the call needs is not open. Invocations are never refused. -/
def Refuses (w : Workspace) : Call → WorkspaceError → Prop
  | .operation (.openDocument path _ _), error =>
    w.isOpen path = true ∧ .pathAlreadyOpen path = error
  | .operation (.closeDocument path), error
  | .operation (.setActive path), error =>
    w.isOpen path = false ∧ .documentNotFound path = error
  | .operation (.applyEdit edit), error =>
    ∃ front missing behind, edit.paths = front ++ missing :: behind ∧
      (∀ path ∈ front, w.isOpen path = true) ∧ w.isOpen missing = false ∧
        .documentNotFound missing = error
  | _, _ => False

theorem applyEdit_eq_error_iff {edit : WorkspaceEdit} {error : WorkspaceError} :
    w.applyEdit edit = .error error ↔ w.Refuses (.operation (.applyEdit edit)) error := by
  unfold applyEdit
  simp only [Refuses]
  split
  · rename_i missing hfind
    obtain ⟨hmissing, front, behind, hpaths, hfront⟩ := List.find?_eq_some_iff_append.mp hfind
    constructor
    · intro herror
      refine ⟨front, missing, behind, hpaths, ?_, ?_, Except.error.inj herror⟩
      · simpa using hfront
      · simpa using hmissing
    · rintro ⟨front', missing', behind', hpaths', hfront', hmissing', rfl⟩
      have hfind' : edit.paths.find? (fun path => !w.isOpen path) = some missing' :=
        List.find?_eq_some_iff_append.mpr
          ⟨by simpa using hmissing', front', behind', hpaths', by simpa using hfront'⟩
      rw [Option.some.inj (hfind.symm.trans hfind')]
  · rename_i hfind
    refine ⟨nofun, ?_⟩
    rintro ⟨front, missing, behind, hpaths, _, hmissing, _⟩
    have hmem : missing ∈ edit.paths := by simp [hpaths]
    have hopen := List.find?_eq_none.mp hfind missing hmem
    simp [hmissing] at hopen

theorem tryCall_eq_error_iff (hkeyed : Keyed w.documents) (call : Call)
    (error : WorkspaceError) : w.tryCall call = .error error ↔ w.Refuses call error := by
  have hnever : ∀ w' : Workspace, Except.ok w' = .error error ↔ False := by simp
  cases call with
  | invoke engine action =>
      obtain ⟨inv, hok, _⟩ := exists_invoke_eq_ok hkeyed engine action
      rw [tryCall, hok]
      exact hnever _
  | operation operation =>
      cases operation with
      | applyEdit edit => exact applyEdit_eq_error_iff
      | openDocument path language text =>
          cases hopen : w.isOpen path <;>
            simp [tryCall, Workspace.tryOperation, openDocument, Refuses, hopen]
      | closeDocument path =>
          cases hopen : w.isOpen path <;>
            simp [tryCall, Workspace.tryOperation, closeDocument, Refuses, hopen]
      | setActive path =>
          cases hopen : w.isOpen path <;>
            simp [tryCall, Workspace.tryOperation, setActive, Refuses, hopen]
      | addRoot root => exact hnever _
      | setAcceptsPrompts accepts => exact hnever _
      | takeMessages => exact hnever _
      | showMessage message => exact hnever _
      | requestOpen path => exact hnever _

/-- What holds of the documents of a workspace between any two calls. -/
structure Sound (w : Workspace) : Prop where
  active_isSome : w.activeDocument?.isSome = true ↔ w.openDocuments ≠ []
  active_mem : ∀ d, w.activeDocument? = some d → d ∈ w.openDocuments
  mem_openDocuments : ∀ d, d ∈ w.openDocuments ↔ ∃ path, w.document? path = some d
  keyed : ∀ (k : List Component) d, w.documents[k]? = some d → d.path.components = k
  found : ∀ d ∈ w.openDocuments, w.source.find? d.path = some d
  ordered : w.openDocuments.Pairwise fun a b =>
    compare a.path.components b.path.components = .lt

theorem Intact.mem_openDocuments (hintact : w.Intact) :
    d ∈ w.openDocuments ↔ w.document? d.path = some d := by
  rw [openDocuments, mem_values_iff]
  constructor
  · rintro ⟨k, hk⟩
    rw [document?, hintact.keyed k d hk, hk]
  · exact fun hd => ⟨_, hd⟩

theorem mem_openDocuments_of_active (hactive : w.activeDocument? = some d) :
    d ∈ w.openDocuments := by
  obtain ⟨path, _, hd⟩ := Option.bind_eq_some_iff.mp hactive
  exact (mem_values_iff _ d).mpr ⟨path.components, hd⟩

theorem Intact.active_isSome (hintact : w.Intact) :
    w.activeDocument?.isSome = true ↔ w.openDocuments ≠ [] := by
  constructor
  · intro hsome
    obtain ⟨d, hd⟩ := Option.isSome_iff_exists.mp hsome
    exact List.ne_nil_of_mem (mem_openDocuments_of_active hd)
  · intro hne
    obtain ⟨d, hmem⟩ := List.exists_mem_of_ne_nil _ hne
    cases hactive : w.active with
    | none =>
        have hnone := hintact.inactive hactive d.path.components
        exact nomatch hnone.symm.trans (hintact.mem_openDocuments.mp hmem)
    | some path =>
        obtain ⟨active, hd⟩ := hintact.active path hactive
        rw [activeDocument?, hactive, Option.bind_some, hd]
        rfl

theorem Intact.sound (hintact : w.Intact) : w.Sound where
  active_isSome := hintact.active_isSome
  active_mem _ := mem_openDocuments_of_active
  mem_openDocuments d :=
    ⟨fun hmem => ⟨d.path, hintact.mem_openDocuments.mp hmem⟩,
      fun ⟨path, hd⟩ => (mem_values_iff _ d).mpr ⟨path.components, hd⟩⟩
  keyed := hintact.keyed
  found _ hmem := hintact.mem_openDocuments.mp hmem
  ordered := by
    rw [openDocuments, values_eq_map_toList, List.pairwise_map]
    apply List.Pairwise.imp_of_mem _ Std.TreeMap.ordered_keys_toList
    intro a b ha hb hlt
    rw [hintact.keyed a.1 a.2 (Std.TreeMap.mem_toList_iff_getElem?_eq_some.mp ha),
      hintact.keyed b.1 b.2 (Std.TreeMap.mem_toList_iff_getElem?_eq_some.mp hb)]
    exact hlt

/-- What a history of calls has kept, and keeps over the calls that follow. -/
structure Kept (calls : List Call) : Prop where
  sound : (history calls).Sound
  refused_iff : ∀ call error,
    (history calls).tryCall call = .error error ↔ (history calls).Refuses call error
  spared : ∀ call error, (history calls).Refuses call error →
    history (calls ++ [call]) = history calls
  ages : ∀ path d, (history calls).document? path = some d → ∀ more : List Call,
    (∀ front, front <+: more → (history (calls ++ front)).isOpen path = true) →
      ∃ later, (history (calls ++ more)).document? path = some later ∧ d.Ages later

theorem history_append (calls more : List Call) :
    history (calls ++ more) = more.foldl afterCall (history calls) := List.foldl_append

/-- Behind every history of calls, the workspace is sound, refuses just the calls it has to and is
not changed by them, and the documents that stay open age. -/
theorem history_kept (calls : List Call) : Kept calls := by
  have hintact : (history calls).Intact := empty_intact.foldl_afterCall calls
  have hrefused := tryCall_eq_error_iff hintact.keyed
  refine ⟨hintact.sound, hrefused, fun call error hrefuses => ?_, fun path d hd more hopen => ?_⟩
  · rw [history_append, List.foldl_cons, List.foldl_nil, Workspace.afterCall,
      (hrefused call error).mpr hrefuses]
    rfl
  · simp only [history_append] at hopen ⊢
    exact hintact.ages_foldl_afterCall more hd hopen

end Workspace

end QuickFix
