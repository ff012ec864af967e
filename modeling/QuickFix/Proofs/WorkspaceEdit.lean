import QuickFix.Document.WorkspaceEdit
import QuickFix.Proofs.OrderedMap

/-!
Edits of several documents as queues: an edit that is pushed stands behind those of its document,
and only there. The edits that are built by pushing have one entry for each document they touch, and
no entry without an edit.
-/

namespace QuickFix

namespace WorkspaceEdit

/-- Every entry stands at the components of its path and holds an edit. -/
def WellFormed (edit : WorkspaceEdit) : Prop :=
  ∀ (k : List Component) (file : FileEdits), edit.changes[k]? = some file →
    file.path.components = k ∧ file.edits ≠ []

theorem empty_wellFormed : empty.WellFormed := by
  intro k file hfile
  simp [empty] at hfile

/-- What stands at a path once an edit was pushed. -/
theorem getElem?_push (edit : WorkspaceEdit) (path : Path) (new : TextEdit)
    (k : List Component) :
    (edit.push path new).changes[k]? =
      if path.components = k then
        match edit.changes[k]? with
        | none => some ⟨path, [new]⟩
        | some file => some { file with edits := file.edits ++ [new] }
      else edit.changes[k]? := by
  simp only [push, Std.TreeMap.getElem?_alter, Std.LawfulEqCmp.compare_eq_iff_eq]
  by_cases hk : path.components = k
  · subst hk
    cases edit.changes[path.components]? <;> simp
  · simp [hk]

theorem push_wellFormed {edit : WorkspaceEdit} (hedit : edit.WellFormed) (path : Path)
    (new : TextEdit) : (edit.push path new).WellFormed := by
  intro k file hfile
  rw [getElem?_push] at hfile
  by_cases hk : path.components = k
  · rw [if_pos hk] at hfile
    cases hold : edit.changes[k]? with
    | none =>
        simp only [hold, Option.some.injEq] at hfile
        subst hfile
        exact ⟨hk, by simp⟩
    | some old =>
        simp only [hold, Option.some.injEq] at hfile
        subst hfile
        exact ⟨(hedit k old hold).1, by simp⟩
  · rw [if_neg hk] at hfile
    exact hedit k file hfile

theorem mem_files_iff (edit : WorkspaceEdit) (file : FileEdits) :
    file ∈ edit.files ↔ ∃ k : List Component, edit.changes[k]? = some file :=
  mem_values_iff edit.changes file

theorem getElem?_of_mem_files {edit : WorkspaceEdit} (hedit : edit.WellFormed)
    {file : FileEdits} (hfile : file ∈ edit.files) :
    edit.changes[file.path.components]? = some file := by
  obtain ⟨k, hk⟩ := (mem_files_iff edit file).mp hfile
  rw [(hedit k file hk).1, hk]

/-- No document has two entries. -/
theorem files_pairwise_ne {edit : WorkspaceEdit} (hedit : edit.WellFormed) :
    edit.files.Pairwise fun a b => a.path.components ≠ b.path.components :=
  values_pairwise_ne edit.changes (fun file => file.path.components)
    fun k file hfile => (hedit k file hfile).1

theorem editsFor_push (edit : WorkspaceEdit) (path other : Path) (new : TextEdit) :
    (edit.push path new).editsFor other =
      if path.components = other.components then edit.editsFor other ++ [new]
      else edit.editsFor other := by
  simp only [editsFor, getElem?_push]
  by_cases hpath : path.components = other.components
  · simp only [hpath, ↓reduceIte]
    cases edit.changes[other.components]? <;> simp
  · simp only [hpath, ↓reduceIte]

theorem mem_editsFor_iff (edit : WorkspaceEdit) (path : Path) (made : TextEdit) :
    made ∈ edit.editsFor path ↔
      ∃ file, edit.changes[path.components]? = some file ∧ made ∈ file.edits := by
  cases hfile : edit.changes[path.components]? <;> simp [editsFor, hfile]

theorem count_pos_iff (edit : WorkspaceEdit) :
    0 < edit.count ↔ ∃ file ∈ edit.files, file.edits ≠ [] := by
  rw [count, List.length_pos_iff, Ne, List.flatMap_eq_nil_iff]
  simp only [Classical.not_forall, exists_prop]

theorem count_empty : empty.count = 0 := rfl

/-- An edit that is pushed counts once. -/
theorem count_push (edit : WorkspaceEdit) (path : Path) (new : TextEdit) :
    (edit.push path new).count = edit.count + 1 := by
  have hpush := getElem?_push edit path new
  have hothers : ∀ k : List Component, k ≠ path.components →
      (edit.push path new).changes[k]? = edit.changes[k]? := by
    intro k hk
    rw [hpush, if_neg hk.symm]
  have hself := hpush path.components
  rw [if_pos rfl] at hself
  cases hold : edit.changes[path.components]? with
  | none =>
      rw [hold] at hself
      have hperm := values_perm_of_some hself hothers
      rw [← values_eq_of_none hold] at hperm
      rw [count, files, (hperm.flatMap_right FileEdits.edits).length_eq]
      simp [count, files, Nat.add_comm]
  | some file =>
      rw [hold] at hself
      have hperm := values_perm_of_some hself hothers
      have hperm' := values_perm_of_some hold fun _ _ => rfl
      rw [count, files, (hperm.flatMap_right FileEdits.edits).length_eq, count, files,
        (hperm'.flatMap_right FileEdits.edits).length_eq]
      simp only [List.flatMap_cons, List.length_append, List.length_singleton]
      omega

theorem count_push_pos (edit : WorkspaceEdit) (path : Path) (new : TextEdit) :
    0 < (edit.push path new).count := by
  rw [count_push]
  exact Nat.succ_pos _

end WorkspaceEdit

end QuickFix
