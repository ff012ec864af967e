import QuickFix.Action.Source
import QuickFix.Proofs.NormalPath

/-!
The directory of a path from the root. The path is cut at its slashes, and what is left of the parts
is spelled as before; the parts that say nothing are dropped, so the components of the directory are
those of the path without the last one.
-/

namespace QuickFix

namespace Path

/-- Whether a part between slashes is read as it stands behind the root. -/
structure Segment.Read (s : Segment) : Prop where
  slash : '/' ∉ s.chars
  component : s.component? = componentOf? false s.chars

theorem read_of_mem_segmentsBehindRoot {cs : List Char} {s : Segment}
    (hs : s ∈ segmentsBehindRoot cs) : s.Read := by
  obtain ⟨chars, hchars, rfl⟩ := List.mem_map.mp hs
  exact ⟨slash_not_mem_of_mem_splitOn hchars, rfl⟩

/-- Parts that are spelled with slashes between them are read again. -/
theorem inside_spell {backwards : List Segment} (hread : ∀ s ∈ backwards, s.Read) :
    inside (spell backwards) = (backwards.filterMap Segment.component?).reverse := by
  have hread' : ∀ s ∈ backwards.reverse, s.Read := by simpa using hread
  rw [← List.filterMap_reverse, spell]
  generalize backwards.reverse = segments at hread'
  cases segments with
  | nil => rfl
  | cons first more =>
      have hslash : ∀ chars ∈ (first :: more).map Segment.chars, '/' ∉ chars := by
        intro chars hchars
        obtain ⟨s, hs, rfl⟩ := List.mem_map.mp hchars
        exact (hread' s hs).slash
      rw [inside_eq, List.splitOn_intercalate '/' hslash (by simp), List.filterMap_map]
      exact List.filterMap_congr fun s hs => ((hread' s hs).component).symm

theorem filterMap_dropSilent (backwards : List Segment) :
    (dropSilent backwards).filterMap Segment.component? =
      backwards.filterMap Segment.component? := by
  induction backwards with
  | nil => rfl
  | cons s before ih =>
      cases hs : s.component? with
      | none =>
          rw [dropSilent, List.dropWhile_cons_of_pos (by simp [hs]), List.filterMap_cons_none hs]
          exact ih
      | some c => rw [dropSilent, List.dropWhile_cons_of_neg (by simp [hs])]

/-- The part in front of those that say nothing stands for a component. -/
theorem exists_of_dropSilent_eq_cons {backwards before : List Segment} {s : Segment}
    (hdrop : dropSilent backwards = s :: before) : ∃ c, s.component? = some c := by
  have hhead := List.head?_dropWhile_not (fun s : Segment => s.component?.isNone) backwards
  rw [dropSilent] at hdrop
  rw [hdrop] at hhead
  simpa [← Option.isSome_iff_exists] using hhead

/-- A path from the root to something has a directory, and there the last component is missing. -/
theorem exists_parent? {p : Path} (hp : p.isAbsolute = true) (hroot : p.components ≠ [.root]) :
    ∃ parent, p.parent? = some parent ∧ parent.components = p.components.dropLast := by
  obtain ⟨cs, htext, hcomponents⟩ := components_of_isAbsolute hp
  have hinside : ((segmentsBehindRoot cs).reverse).filterMap Segment.component? =
      (inside cs).reverse := List.filterMap_reverse
  have hread : ∀ s ∈ (segmentsBehindRoot cs).reverse, s.Read := by
    intro s hs
    exact read_of_mem_segmentsBehindRoot (List.mem_reverse.mp hs)
  rw [← filterMap_dropSilent] at hinside
  cases hdrop : dropSilent (segmentsBehindRoot cs).reverse with
  | nil =>
      rw [hdrop] at hinside
      rw [hcomponents] at hroot
      exact absurd (by simpa using hinside.symm) hroot
  | cons s before =>
      obtain ⟨c, hc⟩ := exists_of_dropSilent_eq_cons hdrop
      have hbefore : ∀ s ∈ dropSilent before, s.Read := by
        intro other hother
        apply hread
        have hmem : other ∈ s :: before :=
          List.mem_cons_of_mem s ((List.dropWhile_suffix _).mem hother)
        rw [← hdrop] at hmem
        exact (List.dropWhile_suffix _).mem hmem
      refine ⟨⟨String.ofList ('/' :: spell (dropSilent before))⟩, ?_, ?_⟩
      · simp only [parent?, htext, hdrop]
      · rw [hdrop, List.filterMap_cons_some hc] at hinside
        have hlast : inside cs = (before.filterMap Segment.component?).reverse ++ [c] := by
          rw [← List.reverse_cons, hinside, List.reverse_reverse]
        rw [components_eq, String.toList_ofList, reading, inside_spell hbefore,
          filterMap_dropSilent, hcomponents, hlast, ← List.cons_append, List.dropLast_concat]

/-- The directory that references start from. -/
theorem components_directory {p : Path} (hp : p.isAbsolute = true) (hroot : p.components ≠ [.root]) :
    (DocumentSource.directory p).components = p.components.dropLast := by
  obtain ⟨parent, hparent, hcomponents⟩ := exists_parent? hp hroot
  rw [DocumentSource.directory, hparent, Option.getD_some, hcomponents]

end Path

end QuickFix
