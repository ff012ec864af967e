import QuickFix.Proofs.NormalPath
import QuickFix.Workspace.Basic

/-!
File references that begin with a slash. They start from the innermost folder of the workspace that
holds the active document, and one without double dots does not leave that folder. What follows the
slash may begin with one of its own, though: it is then a path from the root of all files, and no
folder of the workspace has a say in it.
-/

namespace QuickFix

theorem Path.startsWith_iff {path directory : Path} :
    path.startsWith directory = true ↔ directory.components <+: path.components :=
  List.isPrefixOf_iff_prefix

namespace Workspace

variable {w : Workspace} {path root : Path}

/-- Whether a folder of a workspace holds a path, and every other that holds it is around that one
or at the same place. -/
structure Innermost (w : Workspace) (path root : Path) : Prop where
  registered : root ∈ w.roots
  holds : path.startsWith root = true
  within : ∀ other ∈ w.roots, path.startsWith other = true → root.startsWith other = true

/-- Innermost folders may differ only in how they are written. -/
theorem Innermost.components_eq {other : Path} (hroot : w.Innermost path root)
    (hother : w.Innermost path other) : root.components = other.components := by
  have hin := Path.startsWith_iff.mp (hroot.within other hother.registered hother.holds)
  have hout := Path.startsWith_iff.mp (hother.within root hroot.registered hroot.holds)
  exact hout.eq_of_length_le hin.length_le

theorem innermost_some (best next : Path) : ∃ deeper, innermost (some best) next = some deeper ∧
    (deeper = best ∨ deeper = next) ∧
      best.components.length ≤ deeper.components.length ∧
      next.components.length ≤ deeper.components.length := by
  by_cases hdeeper : best.components.length ≤ next.components.length
  · exact ⟨next, by rw [innermost, if_pos hdeeper], .inr rfl, hdeeper, Nat.le_refl _⟩
  · exact ⟨best, by rw [innermost, if_neg hdeeper], .inl rfl, Nat.le_refl _, by omega⟩

/-- The deepest of some folders is one of them, and none has more components. -/
theorem foldl_innermost (roots : List Path) (best : Path) :
    ∃ root, roots.foldl innermost (some best) = some root ∧ root ∈ best :: roots ∧
      ∀ other ∈ best :: roots, other.components.length ≤ root.components.length := by
  induction roots generalizing best with
  | nil => exact ⟨best, rfl, by simp, by simp⟩
  | cons next rest ih =>
      obtain ⟨deeper, hstep, hdeeper, hbest, hnext⟩ := innermost_some best next
      obtain ⟨root, hfold, hmem, hmost⟩ := ih deeper
      obtain ⟨htop, hrest⟩ := List.forall_mem_cons.mp hmost
      refine ⟨root, ?_, ?_, List.forall_mem_cons.mpr
        ⟨Nat.le_trans hbest htop, List.forall_mem_cons.mpr ⟨Nat.le_trans hnext htop, hrest⟩⟩⟩
      · rw [List.foldl_cons, hstep, hfold]
      · rcases List.mem_cons.mp hmem with rfl | hrest
        · rcases hdeeper with rfl | rfl
          · exact List.mem_cons_self
          · exact List.mem_cons_of_mem _ List.mem_cons_self
        · exact List.mem_cons_of_mem _ (List.mem_cons_of_mem _ hrest)

/-- A workspace that has folders that hold a path knows an innermost one. -/
theorem exists_root? (hroot : root ∈ w.roots) (hholds : path.startsWith root = true) :
    ∃ inner, w.root? path = some inner ∧ w.Innermost path inner := by
  have hmem : ∀ {other : Path}, other ∈ w.roots.filter (fun r => path.startsWith r) ↔
      other ∈ w.roots ∧ path.startsWith other = true := List.mem_filter
  cases hfilter : w.roots.filter fun r => path.startsWith r with
  | nil => exact absurd (hmem.mpr ⟨hroot, hholds⟩) (by simp [hfilter])
  | cons first rest =>
      obtain ⟨inner, hfold, hinner, hmost⟩ := foldl_innermost rest first
      rw [← hfilter] at hinner hmost
      obtain ⟨hregistered, hinside⟩ := hmem.mp hinner
      refine ⟨inner, ?_, hregistered, hinside, fun other hother hheld => ?_⟩
      · rw [root?, hfilter]
        exact hfold
      · have hlength := hmost other (hmem.mpr ⟨hother, hheld⟩)
        rw [Path.startsWith_iff] at hheld hinside ⊢
        exact List.prefix_of_prefix_length_le hheld hinside hlength

theorem root?_eq_none (houtside : ∀ root ∈ w.roots, path.startsWith root = false) :
    w.root? path = none := by
  have hfilter : w.roots.filter (fun root => path.startsWith root) = [] :=
    List.filter_eq_nil_iff.mpr fun root hroot => by simp [houtside root hroot]
  rw [root?, hfilter]
  rfl

end Workspace

namespace Path

theorem toList_slash_append (rooted : String) : ("/" ++ rooted).toList = '/' :: rooted.toList := by
  rw [String.toList_append]
  rfl

/-- Without its slash a path has no double dots if it had none before. -/
theorem parent_not_mem_behind_slash {rooted : String}
    (hup : .parent ∉ (Path.mk ("/" ++ rooted)).components)
    (hrelative : isAbsolute ⟨rooted⟩ = false) : .parent ∉ (Path.mk rooted).components := by
  rw [components_eq, toList_slash_append, reading] at hup
  have hinside : .parent ∉ inside rooted.toList := fun hmem => hup (List.mem_cons_of_mem _ hmem)
  rw [components_of_relative hrelative]
  rcases relative_eq_inside rooted.toList with h | h
  · rwa [h]
  · simpa [h] using hinside

/-- The normal form of a path depends on its components alone. -/
theorem normalize_congr {p q : Path} (hcomponents : p.components = q.components) :
    p.normalize = q.normalize := by
  rw [normalize, hcomponents, normalize]

/-- A relative path without double dots consists of names, but for a dot in front. -/
theorem isName_of_relative {p : Path} (hp : p.isAbsolute = false) (hup : .parent ∉ p.components) :
    ∀ c ∈ p.components.filter (· ≠ .current), c.isName = true := by
  intro c hc
  have hplain : c.Plain := by
    rw [filter_components_of_relative hp] at hc
    exact plain_of_mem_inside hc
  apply hplain.isName
  rintro rfl
  exact hup (List.mem_filter.mp hc).1

/-- A relative path without double dots does not lead out of a directory. -/
theorem startsWith_normalize_join {directory p : Path} (hp : p.isAbsolute = false)
    (hup : .parent ∉ p.components) :
    (directory.join p).normalize.startsWith directory.normalize = true := by
  rw [startsWith_iff, components_normalize, components_normalize]
  by_cases hdirectory : directory.text = ""
  · have hempty : directory.components = [] := by
      rw [components_eq, hdirectory]
      rfl
    rw [hempty]
    exact List.nil_prefix
  · rw [components_join hp hdirectory, normalComponents_append_names _ (isName_of_relative hp hup)]
    exact List.prefix_append _ _

theorem normalize_join_of_isAbsolute {directory p : Path} (hp : p.isAbsolute = true) :
    (directory.join p).normalize = p.normalize := by
  rw [join, if_pos hp]

end Path

namespace DocumentSource

theorem reference_rooted (source : DocumentSource) (active : Document) (rooted : String) :
    source.reference active ("/" ++ rooted) =
      match source.root? active.path with
      | some root => .ok (root.join ⟨rooted⟩).normalize
      | none => .error (.noWorkspaceRoot active.path) := by
  cases hroot : source.root? active.path with
  | none => simp only [reference, Path.toList_slash_append, hroot]
  | some root => simp only [reference, Path.toList_slash_append, hroot, String.ofList_toList]

end DocumentSource

namespace Workspace

/-- A reference that begins with a slash is read from one of the innermost folders. -/
theorem reference_of_innermost {w : Workspace} {active : Document} {root : Path}
    (hroot : w.Innermost active.path root) (rooted : String) :
    ∃ inner, w.Innermost active.path inner ∧
      w.source.reference active ("/" ++ rooted) = .ok (inner.join ⟨rooted⟩).normalize := by
  obtain ⟨inner, hfound, hinner⟩ := exists_root? hroot.registered hroot.holds
  have hroot? : w.source.root? active.path = some inner := hfound
  refine ⟨inner, hinner, ?_⟩
  rw [DocumentSource.reference_rooted, hroot?]

/-- What a reference that begins with a slash comes to for an active document. -/
structure ReadsRooted (w : Workspace) (active : Document) (rooted : String) : Prop where
  /-- A document in some folder of the workspace is in an innermost one. -/
  inner : ∀ root ∈ w.roots, active.path.startsWith root = true →
    ∃ inner, w.Innermost active.path inner
  /-- From there the reference leads to a path that is in that folder. -/
  stays : Path.isAbsolute ⟨rooted⟩ = false → ∀ root, w.Innermost active.path root →
    ∃ path, w.source.reference active ("/" ++ rooted) = .ok path ∧
      path.startsWith root.normalize = true
  /-- Behind a second slash the folder counts for nothing. -/
  leaves : Path.isAbsolute ⟨rooted⟩ = true → ∀ root, w.Innermost active.path root →
    w.source.reference active ("/" ++ rooted) = .ok (Path.normalize ⟨rooted⟩)
  /-- A document in no folder has no such references. -/
  outside : (∀ root ∈ w.roots, active.path.startsWith root = false) →
    w.source.reference active ("/" ++ rooted) = .error (.noWorkspaceRoot active.path)

/-- A reference with a slash in front and no double dots leads into the innermost folder that holds
the active document, unless a second slash follows. -/
theorem readsRooted_of_no_parent (w : Workspace) (active : Document) (rooted : String)
    (hup : .parent ∉ (Path.mk ("/" ++ rooted)).components) : w.ReadsRooted active rooted where
  inner root hroot hholds := by
    obtain ⟨inner, _, hinner⟩ := exists_root? hroot hholds
    exact ⟨inner, hinner⟩
  stays hrelative root hroot := by
    obtain ⟨inner, hinner, href⟩ := reference_of_innermost hroot rooted
    refine ⟨_, href, ?_⟩
    rw [Path.normalize_congr (hroot.components_eq hinner)]
    exact Path.startsWith_normalize_join hrelative
      (Path.parent_not_mem_behind_slash hup hrelative)
  leaves habsolute root hroot := by
    obtain ⟨inner, _, href⟩ := reference_of_innermost hroot rooted
    rw [href, Path.normalize_join_of_isAbsolute habsolute]
  outside houtside := by
    have hroot? : w.source.root? active.path = none := root?_eq_none houtside
    rw [DocumentSource.reference_rooted, hroot?]

end Workspace

namespace ReferenceWitness

def workspace : Workspace := { roots := [⟨"/"⟩, ⟨"/w/./x"⟩, ⟨"/w//"⟩, ⟨"/v"⟩] }

def active : Document := ⟨⟨"/w/a.rs"⟩, "rust", 0, []⟩

theorem innermost_folder : workspace.Innermost active.path ⟨"/w//"⟩ :=
  ⟨by decide, by decide, by decide⟩

theorem no_parent_inner : .parent ∉ (Path.mk ("/" ++ "src/b.rs")).components := by decide

/-- The reference of a file in the folder, from a document that two folders hold. -/
theorem readsRooted_inner :
    .parent ∉ (Path.mk ("/" ++ "src/b.rs")).components ∧
      workspace.Innermost active.path ⟨"/w//"⟩ ∧
      ∃ path, workspace.source.reference active "/src/b.rs" = .ok path ∧
        path.startsWith (Path.normalize ⟨"/w//"⟩) = true := by
  have hreads := workspace.readsRooted_of_no_parent active "src/b.rs" no_parent_inner
  exact ⟨no_parent_inner, innermost_folder, hreads.stays (by decide) _ innermost_folder⟩

theorem reference_outer :
    workspace.source.reference active "//etc/passwd" = .ok ⟨"/etc/passwd"⟩ := by
  decide

/-- Without a word about a second slash, the reference may lead out of the folder. -/
theorem not_stays_outer :
    ¬ ∀ (w : Workspace) (active : Document) (reference : String) (root : Path),
      reference.toList.head? = some '/' → .parent ∉ (Path.mk reference).components →
      w.Innermost active.path root →
      ∃ path, w.source.reference active reference = .ok path ∧
        path.startsWith root.normalize = true := by
  intro hstays
  obtain ⟨path, hpath, hinside⟩ :=
    hstays workspace active "//etc/passwd" ⟨"/w//"⟩ (by decide) (by decide) innermost_folder
  rw [reference_outer, Except.ok.injEq] at hpath
  rw [← hpath] at hinside
  revert hinside
  decide

end ReferenceWitness

end QuickFix
