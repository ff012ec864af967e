import QuickFix.Proofs.WorkspaceEdit
import QuickFix.Workspace.Basic

/-!
Workspaces as they are reached from the empty one by operations. In each of them a document is kept
at the components of its own path. So what a workspace hands out is open at its path, and an edit of
open documents is applied to each of them as a batch, and to no other document.
-/

namespace QuickFix

namespace Document

theorem path_applyEdits (d : Document) (edits : List TextEdit) :
    (d.applyEdits edits).1.path = d.path := rfl

theorem applyEdits_nil (d : Document) : (d.applyEdits []).1 = d := by
  simp [applyEdits, splices]

/-- A batch that is not empty counts as one version. -/
theorem version_applyEdits (d : Document) {edits : List TextEdit} (hedits : edits ≠ []) :
    (d.applyEdits edits).1.version = bump d.version := by
  have hlength : (d.splices edits).length = edits.length := by
    rw [splices, List.length_mergeSort, List.length_map]
  have hne : (d.splices edits).reverse.isEmpty = false := by
    rw [List.isEmpty_eq_false_iff, ← List.length_pos_iff, List.length_reverse, hlength]
    exact List.length_pos_iff.mpr hedits
  simp only [applyEdits, hne, Bool.false_eq_true, ↓reduceIte]

end Document

namespace Workspace

/-- What can be done to a workspace. -/
inductive Operation where
  | openDocument (path : Path) (language text : String)
  | closeDocument (path : Path)
  | setActive (path : Path)
  | addRoot (root : Path)
  | setAcceptsPrompts (accepts : Bool)
  | takeMessages
  | applyEdit (edit : WorkspaceEdit)
  | showMessage (message : UserMessage)
  | requestOpen (path : Path)

/-- The workspace after an operation. One that fails changes nothing. -/
def perform (w : Workspace) : Operation → Workspace
  | .openDocument path language text => (w.openDocument path language text).toOption.getD w
  | .closeDocument path => (w.closeDocument path).toOption.getD w
  | .setActive path => (w.setActive path).toOption.getD w
  | .addRoot root => w.addRoot root
  | .setAcceptsPrompts accepts => w.setAcceptsPrompts accepts
  | .takeMessages => w.takeMessages.1
  | .applyEdit edit => (w.applyEdit edit).toOption.getD w
  | .showMessage message => (w.showMessage message).1
  | .requestOpen path => w.requestOpen path

/-- The workspace that operations reach from the empty one. -/
def afterAll (operations : List Operation) : Workspace := operations.foldl perform {}

/-- Every document is kept at the components of its path. -/
def Keyed (documents : PathMap Document) : Prop :=
  ∀ (k : List Component) (d : Document), documents[k]? = some d → d.path.components = k

theorem getElem?_applyTo (documents : PathMap Document) (file : FileEdits)
    (k : List Component) :
    (applyTo documents file)[k]? =
      if file.path.components = k then
        documents[k]?.map fun d => (d.applyEdits file.edits).1
      else documents[k]? := by
  simp only [applyTo, Std.TreeMap.getElem?_modify, Std.LawfulEqCmp.compare_eq_iff_eq]
  by_cases hk : file.path.components = k
  · subst hk
    simp
  · simp [hk]

theorem applyTo_keyed {documents : PathMap Document} (hkeyed : Keyed documents)
    (file : FileEdits) : Keyed (applyTo documents file) := by
  intro k d hd
  rw [getElem?_applyTo] at hd
  by_cases hk : file.path.components = k
  · rw [if_pos hk] at hd
    obtain ⟨old, hold, rfl⟩ := Option.map_eq_some_iff.mp hd
    rw [Document.path_applyEdits]
    exact hkeyed k old hold
  · rw [if_neg hk] at hd
    exact hkeyed k d hd

theorem foldl_applyTo_keyed {documents : PathMap Document} (hkeyed : Keyed documents)
    (files : List FileEdits) : Keyed (files.foldl applyTo documents) := by
  induction files generalizing documents with
  | nil => exact hkeyed
  | cons file rest ih => exact ih (applyTo_keyed hkeyed file)

theorem perform_keyed {w : Workspace} (hkeyed : Keyed w.documents) (operation : Operation) :
    Keyed (w.perform operation).documents := by
  cases operation with
  | openDocument path language text =>
      simp only [perform, openDocument]
      split
      · exact hkeyed
      · intro k d hd
        simp only [Except.toOption, Option.getD_some, Std.TreeMap.getElem?_insert,
          Std.LawfulEqCmp.compare_eq_iff_eq] at hd
        split at hd
        · rename_i hk
          exact (Option.some.inj hd) ▸ hk
        · exact hkeyed k d hd
  | closeDocument path =>
      simp only [perform, closeDocument]
      split
      · intro k d hd
        simp only [Except.toOption, Option.getD_some, Std.TreeMap.getElem?_erase,
          Std.LawfulEqCmp.compare_eq_iff_eq] at hd
        split at hd
        · cases hd
        · exact hkeyed k d hd
      · exact hkeyed
  | setActive path =>
      simp only [perform, setActive]
      split <;> exact hkeyed
  | applyEdit edit =>
      simp only [perform, applyEdit]
      split
      · exact hkeyed
      · exact foldl_applyTo_keyed hkeyed edit.files
  | addRoot root => exact hkeyed
  | setAcceptsPrompts accepts => exact hkeyed
  | takeMessages => exact hkeyed
  | showMessage message => exact hkeyed
  | requestOpen path => exact hkeyed

theorem foldl_perform_keyed {w : Workspace} (hkeyed : Keyed w.documents)
    (operations : List Operation) : Keyed (operations.foldl perform w).documents := by
  induction operations generalizing w with
  | nil => exact hkeyed
  | cons operation rest ih => exact ih (perform_keyed hkeyed operation)

/-- Operations keep every document at the components of its path. -/
theorem afterAll_keyed (operations : List Operation) :
    Keyed (afterAll operations).documents := by
  apply foldl_perform_keyed
  intro k d hd
  simp at hd

theorem getElem?_foldl_applyTo_of_ne {files : List FileEdits} {k : List Component}
    (hne : ∀ file ∈ files, file.path.components ≠ k) (documents : PathMap Document) :
    (files.foldl applyTo documents)[k]? = documents[k]? := by
  induction files generalizing documents with
  | nil => rfl
  | cons file rest ih =>
      rw [List.foldl_cons, ih (fun other hother => hne other (List.mem_cons_of_mem file hother)),
        getElem?_applyTo, if_neg (hne file List.mem_cons_self)]

/-- Where no two entries are for one document, each document gets the batch of its own entry. -/
theorem getElem?_foldl_applyTo_of_mem {files : List FileEdits}
    (hdistinct : files.Pairwise fun a b => a.path.components ≠ b.path.components)
    {file : FileEdits} (hfile : file ∈ files) (documents : PathMap Document) :
    (files.foldl applyTo documents)[file.path.components]? =
      documents[file.path.components]?.map fun d => (d.applyEdits file.edits).1 := by
  induction files generalizing documents with
  | nil => cases hfile
  | cons first rest ih =>
      obtain ⟨hfirst, hrest⟩ := List.pairwise_cons.mp hdistinct
      rw [List.foldl_cons]
      rcases List.mem_cons.mp hfile with rfl | hmem
      · rw [getElem?_foldl_applyTo_of_ne (fun other hother => (hfirst other hother).symm),
          getElem?_applyTo, if_pos rfl]
      · rw [ih hrest hmem, getElem?_applyTo, if_neg (hfirst file hmem)]

/-- Each document gets the batch of its own path; for most documents that is empty. -/
theorem getElem?_foldl_applyTo {edit : WorkspaceEdit} (hedit : edit.WellFormed)
    (documents : PathMap Document) (path : Path) :
    (edit.files.foldl applyTo documents)[path.components]? =
      documents[path.components]?.map fun d => (d.applyEdits (edit.editsFor path)).1 := by
  cases hfile : edit.changes[path.components]? with
  | some file =>
      have hpath : file.path.components = path.components := (hedit _ file hfile).1
      have hmem : file ∈ edit.files := (WorkspaceEdit.mem_files_iff edit file).mpr ⟨_, hfile⟩
      rw [← hpath, getElem?_foldl_applyTo_of_mem (WorkspaceEdit.files_pairwise_ne hedit) hmem,
        WorkspaceEdit.editsFor, hfile]
  | none =>
      have hne : ∀ file ∈ edit.files, file.path.components ≠ path.components := by
        intro file hmem heq
        have hsome := WorkspaceEdit.getElem?_of_mem_files hedit hmem
        rw [heq, hfile] at hsome
        cases hsome
      simp [getElem?_foldl_applyTo_of_ne hne, WorkspaceEdit.editsFor, hfile,
        Document.applyEdits_nil]

theorem isOpen_iff {w : Workspace} {path : Path} :
    w.isOpen path = true ↔ ∃ d, w.document? path = some d := by
  rw [isOpen, Std.TreeMap.contains_eq_isSome_getElem?, Option.isSome_iff_exists]
  rfl

theorem isOpen_eq_false_iff {w : Workspace} {path : Path} :
    w.isOpen path = false ↔ w.document? path = none := by
  rw [isOpen, Std.TreeMap.contains_eq_isSome_getElem?, Option.isSome_eq_false_iff,
    Option.isNone_iff_eq_none]
  rfl

/-- An edit whose documents are all open is applied. -/
theorem applyEdit_of_open {w : Workspace} {edit : WorkspaceEdit}
    (hopen : ∀ file ∈ edit.files, w.isOpen file.path = true) :
    w.applyEdit edit =
      .ok { w with documents := edit.files.foldl applyTo w.documents } := by
  have hnone : edit.paths.find? (fun path => !w.isOpen path) = none := by
    rw [List.find?_eq_none]
    intro path hpath
    obtain ⟨file, hfile, rfl⟩ := List.mem_map.mp hpath
    simp [hopen file hfile]
  rw [applyEdit, hnone]

end Workspace

end QuickFix
