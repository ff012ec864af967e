import Mathlib.Data.List.Basic
import QuickFix.Path.Normal

/-!
Components of paths. What a path is cut into can be written and read back, so the normal form of a
path has the components it was made from. Behind a directory stand the components of what is joined
to it, and ordinary names there leave the normal form of the directory in front.
-/

namespace QuickFix

/-- Whether a component is read back as it is written, wherever it stands between slashes. -/
structure Component.Plain (c : Component) : Prop where
  slash : '/' ∉ c.text.toList
  read : Path.componentOf? false c.text.toList = some c

theorem Component.Plain.ne_current {c : Component} (hc : c.Plain) : c ≠ .current := by
  rintro rfl
  exact nomatch hc.read

theorem Component.Plain.ne_root {c : Component} (hc : c.Plain) : c ≠ .root := by
  rintro rfl
  exact hc.slash (by decide)

theorem Component.Plain.isName {c : Component} (hc : c.Plain) (hup : c ≠ .parent) :
    c.isName = true := by
  cases c with
  | name _ => rfl
  | root => exact absurd rfl hc.ne_root
  | current => exact absurd rfl hc.ne_current
  | parent => exact absurd rfl hup

/-- The front of a relative path is no exception. -/
theorem Component.Plain.read_in_front {c : Component} (hc : c.Plain) :
    Path.componentOf? true c.text.toList = some c := by
  have hread := hc.read
  by_cases hdot : c.text.toList = ['.']
  · simp [hdot, Path.componentOf?] at hread
  · rw [← hread]
    simp [Path.componentOf?, hdot]

namespace Path

theorem slash_not_mem_of_mem_splitOn {cs segment : List Char}
    (hsegment : segment ∈ cs.splitOn '/') : '/' ∉ segment := by
  induction cs generalizing segment with
  | nil =>
      rw [List.splitOn_nil, List.mem_singleton] at hsegment
      simp [hsegment]
  | cons c rest ih =>
      rw [List.splitOn_cons_eq_if_modifyHead] at hsegment
      split at hsegment
      · rcases List.mem_cons.mp hsegment with rfl | hrest
        · simp
        · exact ih hrest
      · rename_i hc
        cases hsplit : rest.splitOn '/' with
        | nil => exact absurd hsplit (List.splitOn_ne_nil _ _)
        | cons first more =>
            rw [hsplit, List.modifyHead_cons] at hsegment
            rcases List.mem_cons.mp hsegment with rfl | hmore
            · have hfirst := ih (hsplit ▸ List.mem_cons_self)
              simp only [beq_iff_eq] at hc
              simp [hfirst, Ne.symm hc]
            · exact ih (hsplit ▸ List.mem_cons_of_mem first hmore)

/-- The components behind a slash. -/
def inside (cs : List Char) : List Component := (segmentsBehindRoot cs).filterMap Segment.component?

/-- The components of a text that does not begin with a slash. -/
def relative (cs : List Char) : List Component :=
  (segmentsOfRelative cs).filterMap Segment.component?

theorem inside_eq (cs : List Char) :
    inside cs = (cs.splitOn '/').filterMap (componentOf? false) := by
  rw [inside, segmentsBehindRoot, List.filterMap_map]
  rfl

theorem inside_append_slash (xs ys : List Char) :
    inside (xs ++ '/' :: ys) = inside xs ++ inside ys := by
  simp only [inside_eq, List.splitOn_append_cons_self, List.filterMap_append]

theorem relative_eq (cs : List Char) :
    ∃ first more, cs.splitOn '/' = first :: more ∧
      relative cs = (componentOf? true first).toList ++ more.filterMap (componentOf? false) := by
  cases hsplit : cs.splitOn '/' with
  | nil => exact absurd hsplit (List.splitOn_ne_nil _ _)
  | cons first more =>
      refine ⟨first, more, rfl, ?_⟩
      simp only [relative, segmentsOfRelative, hsplit, List.filterMap_cons, List.filterMap_map]
      cases componentOf? true first <;> rfl

theorem relative_append_slash (xs ys : List Char) :
    relative (xs ++ '/' :: ys) = relative xs ++ inside ys := by
  obtain ⟨first, more, hsplit, hxs⟩ := relative_eq xs
  obtain ⟨first', more', hsplit', hall⟩ := relative_eq (xs ++ '/' :: ys)
  rw [List.splitOn_append_cons_self, hsplit, List.cons_append, List.cons.injEq] at hsplit'
  obtain ⟨rfl, rfl⟩ := hsplit'
  rw [hall, hxs, List.filterMap_append, List.append_assoc, inside_eq]

/-- Past the front a part stands for nothing or for a plain component. -/
theorem plain_of_componentOf? {segment : List Char} {c : Component} (hslash : '/' ∉ segment)
    (hread : componentOf? false segment = some c) : c.Plain := by
  have htext : c.text.toList = segment := by
    simp only [componentOf?] at hread
    split at hread
    · cases hread
    · split at hread
      · simp at hread
      · split at hread
        · rename_i hparent
          rw [← Option.some.inj hread, hparent]
          rfl
        · rw [← Option.some.inj hread]
          exact String.toList_ofList
  exact ⟨htext ▸ hslash, htext ▸ hread⟩

theorem plain_of_mem_inside {cs : List Char} {c : Component} (hc : c ∈ inside cs) : c.Plain := by
  rw [inside_eq] at hc
  obtain ⟨segment, hsegment, hread⟩ := List.mem_filterMap.mp hc
  exact plain_of_componentOf? (slash_not_mem_of_mem_splitOn hsegment) hread

/-- A dot in front is all that tells a relative text from one behind a slash. -/
theorem relative_eq_inside (cs : List Char) :
    relative cs = inside cs ∨ relative cs = .current :: inside cs := by
  obtain ⟨first, more, hsplit, hrelative⟩ := relative_eq cs
  rw [hrelative, inside_eq, hsplit, List.filterMap_cons]
  by_cases hdot : first = ['.']
  · exact .inr (by simp [hdot, componentOf?])
  · have hfirst : componentOf? true first = componentOf? false first := by
      simp [componentOf?, hdot]
    rw [hfirst]
    cases componentOf? false first <;> exact .inl rfl

/-- The components of a text. -/
def reading : List Char → List Component
  | '/' :: cs => .root :: inside cs
  | cs => relative cs

theorem components_eq (p : Path) : p.components = reading p.text.toList := rfl

theorem reading_of_ne {c : Char} (hc : c ≠ '/') (cs : List Char) :
    reading (c :: cs) = relative (c :: cs) := by
  unfold reading
  split
  · rename_i heq
    exact absurd (List.cons.inj heq).1 hc
  · rfl

theorem reading_append_slash {xs : List Char} (hxs : xs ≠ []) (ys : List Char) :
    reading (xs ++ '/' :: ys) = reading xs ++ inside ys := by
  cases xs with
  | nil => exact absurd rfl hxs
  | cons c cs =>
      by_cases hc : c = '/'
      · subst hc
        simp only [List.cons_append, reading, inside_append_slash]
      · rw [List.cons_append, reading_of_ne hc, reading_of_ne hc, ← List.cons_append,
          relative_append_slash]

theorem components_of_isAbsolute {p : Path} (hp : p.isAbsolute = true) :
    ∃ cs, p.text.toList = '/' :: cs ∧ p.components = .root :: inside cs := by
  rw [components_eq]
  simp only [isAbsolute, decide_eq_true_eq] at hp
  cases htext : p.text.toList with
  | nil => simp [htext] at hp
  | cons c cs =>
      simp only [htext, List.head?_cons, Option.some.injEq] at hp
      subst hp
      exact ⟨cs, rfl, rfl⟩

theorem components_of_relative {p : Path} (hp : p.isAbsolute = false) :
    p.components = relative p.text.toList := by
  rw [components_eq]
  simp only [isAbsolute, decide_eq_false_iff_not] at hp
  cases htext : p.text.toList with
  | nil => rfl
  | cons c cs =>
      simp only [htext, List.head?_cons, Option.some.injEq] at hp
      exact reading_of_ne hp cs

/-- The components of a path: the root or a dot may come first, all others are plain. -/
theorem components_plain (p : Path) : ∃ front rest, p.components = front ++ rest ∧
    (front = [] ∨ front = [.root] ∨ front = [.current]) ∧ ∀ c ∈ rest, c.Plain := by
  cases habsolute : p.isAbsolute with
  | true =>
      obtain ⟨cs, _, hcomponents⟩ := components_of_isAbsolute habsolute
      exact ⟨[.root], inside cs, hcomponents, by simp, fun _ => plain_of_mem_inside⟩
  | false =>
      rw [components_of_relative habsolute]
      rcases relative_eq_inside p.text.toList with hinside | hinside
      · exact ⟨[], _, hinside, by simp, fun _ => plain_of_mem_inside⟩
      · exact ⟨[.current], _, hinside, by simp, fun _ => plain_of_mem_inside⟩

/-- Behind a slash a dot in front says nothing. -/
theorem filter_components_of_relative {p : Path} (hp : p.isAbsolute = false) :
    p.components.filter (· ≠ .current) = inside p.text.toList := by
  have hinside : (inside p.text.toList).filter (· ≠ .current) = inside p.text.toList :=
    List.filter_eq_self.mpr fun c hc => by simpa using (plain_of_mem_inside hc).ne_current
  rw [components_of_relative hp]
  rcases relative_eq_inside p.text.toList with hrelative | hrelative
  · rw [hrelative, hinside]
  · rw [hrelative, List.filter_cons_of_neg (by simp), hinside]

/-- One slash at the end of a text says nothing, unless it is the root. -/
theorem reading_append_slash_nil {xs : List Char} (hxs : xs ≠ []) :
    reading (xs ++ ['/']) = reading xs := by
  rw [reading_append_slash hxs]
  exact List.append_nil _

/-- The components of what is joined to a directory stand behind those of the directory, and there a
dot in front says nothing. -/
theorem components_join {directory p : Path} (hp : p.isAbsolute = false)
    (hdirectory : directory.text ≠ "") :
    (directory.join p).components =
      directory.components ++ p.components.filter (· ≠ .current) := by
  have hne : directory.text.toList ≠ [] := by simpa using hdirectory
  rw [filter_components_of_relative hp, components_eq, components_eq, join, if_neg (by simp [hp])]
  by_cases hslash : directory.text.toList.getLast?.all (· = '/') = true
  · rw [if_pos hslash, String.toList_append]
    have hlast : directory.text.toList.getLast hne = '/' := by
      simpa [List.getLast?_eq_some_getLast hne] using hslash
    have hinit := List.dropLast_append_getLast hne
    rw [hlast] at hinit
    rw [← hinit, List.append_assoc, List.singleton_append]
    by_cases hroot : directory.text.toList.dropLast = []
    · rw [hroot]
      rfl
    · rw [reading_append_slash hroot, reading_append_slash_nil hroot]
  · rw [if_neg hslash, String.toList_append, String.toList_append]
    exact (congrArg reading (by simp)).trans (reading_append_slash hne _)

/-- Whether normal components, given last one first, end at the root or where a relative path
begins, with plain components before that. -/
def Based (base backwards : List Component) : Prop :=
  ∃ above, backwards = above ++ base ∧ ∀ c ∈ above, c.Plain

theorem based_self (base : List Component) : Based base base := ⟨[], rfl, by simp⟩

theorem based_foldComponent {base backwards : List Component} (hbase : base = [] ∨ base = [.root])
    (hbackwards : Based base backwards) {c : Component} (hc : c.Plain) :
    Based base (foldComponent backwards c) := by
  obtain ⟨above, rfl, habove⟩ := hbackwards
  cases c with
  | root => exact absurd rfl hc.ne_root
  | current => exact absurd rfl hc.ne_current
  | name n => exact ⟨.name n :: above, rfl, List.forall_mem_cons.mpr ⟨hc, habove⟩⟩
  | parent =>
      cases above with
      | nil =>
          rcases hbase with rfl | rfl
          · exact ⟨[.parent], rfl, by simpa using hc⟩
          · exact ⟨[], rfl, by simp⟩
      | cons last above =>
          obtain ⟨hlast, hbefore⟩ := List.forall_mem_cons.mp habove
          cases last with
          | root => exact absurd rfl hlast.ne_root
          | current => exact absurd rfl hlast.ne_current
          | name n => exact ⟨above, rfl, hbefore⟩
          | parent =>
              exact ⟨.parent :: .parent :: above, rfl, List.forall_mem_cons.mpr ⟨hc, habove⟩⟩

theorem based_foldl {base backwards : List Component} (hbase : base = [] ∨ base = [.root])
    (hbackwards : Based base backwards) {components : List Component}
    (hplain : ∀ c ∈ components, c.Plain) :
    Based base (components.foldl foldComponent backwards) := by
  induction components generalizing backwards with
  | nil => exact hbackwards
  | cons c rest ih =>
      obtain ⟨hc, hrest⟩ := List.forall_mem_cons.mp hplain
      exact ih (based_foldComponent hbase hbackwards hc) hrest

/-- The normal form of the components of a path: plain ones, with the root in front or not. -/
theorem normalComponents_plain (p : Path) : ∃ base rest,
    normalComponents p.components = base ++ rest ∧ (base = [] ∨ base = [.root]) ∧
      ∀ c ∈ rest, c.Plain := by
  obtain ⟨front, rest, hcomponents, hfront, hrest⟩ := components_plain p
  obtain ⟨base, hbase, hfold⟩ : ∃ base, (base = [] ∨ base = [.root]) ∧
      front.foldl foldComponent [] = base := by
    rcases hfront with rfl | rfl | rfl
    · exact ⟨[], .inl rfl, rfl⟩
    · exact ⟨[.root], .inr rfl, rfl⟩
    · exact ⟨[], .inl rfl, rfl⟩
  obtain ⟨above, habove, hplain⟩ := based_foldl hbase (based_self base) hrest
  refine ⟨base, above.reverse, ?_, hbase, by simpa using hplain⟩
  rw [normalComponents, hcomponents, List.foldl_append, hfold, habove, List.reverse_append]
  rcases hbase with rfl | rfl <;> rfl

theorem splitOn_intercalate_plain {components : List Component} (hne : components ≠ [])
    (hplain : ∀ c ∈ components, c.Plain) :
    (['/'].intercalate (components.map fun c => c.text.toList)).splitOn '/' =
      components.map fun c => c.text.toList := by
  refine List.splitOn_intercalate '/' (fun segment hsegment => ?_) (by simpa using hne)
  obtain ⟨c, hc, rfl⟩ := List.mem_map.mp hsegment
  exact (hplain c hc).slash

theorem filterMap_plain {components : List Component} (hplain : ∀ c ∈ components, c.Plain) :
    (components.map fun c => c.text.toList).filterMap (componentOf? false) = components := by
  rw [List.filterMap_map]
  exact (List.filterMap_congr fun c hc => (hplain c hc).read).trans List.filterMap_some

theorem inside_intercalate {components : List Component} (hplain : ∀ c ∈ components, c.Plain) :
    inside (['/'].intercalate (components.map fun c => c.text.toList)) = components := by
  cases components with
  | nil => rfl
  | cons c rest =>
      rw [inside_eq, splitOn_intercalate_plain (List.cons_ne_nil c rest) hplain,
        filterMap_plain hplain]

theorem reading_intercalate {components : List Component} (hplain : ∀ c ∈ components, c.Plain) :
    reading (['/'].intercalate (components.map fun c => c.text.toList)) = components := by
  cases components with
  | nil => rfl
  | cons c rest =>
      obtain ⟨hc, hplain'⟩ := List.forall_mem_cons.mp hplain
      have hsplit := splitOn_intercalate_plain (List.cons_ne_nil c rest) hplain
      generalize ['/'].intercalate ((c :: rest).map fun c => c.text.toList) = cs at *
      unfold reading
      split
      · rw [List.splitOn_cons_eq_if_modifyHead] at hsplit
        simp only [BEq.rfl, ↓reduceIte, List.map_cons, List.cons.injEq] at hsplit
        have hread := hc.read
        simp [← hsplit.1, componentOf?] at hread
      · obtain ⟨first, more, hfirst, hrelative⟩ := relative_eq cs
        rw [hsplit, List.map_cons, List.cons.injEq] at hfirst
        rw [hrelative, ← hfirst.1, ← hfirst.2, hc.read_in_front, filterMap_plain hplain']
        rfl

/-- Plain components are read back as they are written, behind the root or not. -/
theorem components_ofComponents {base rest : List Component} (hbase : base = [] ∨ base = [.root])
    (hplain : ∀ c ∈ rest, c.Plain) : (ofComponents (base ++ rest)).components = base ++ rest := by
  rw [components_eq]
  rcases hbase with rfl | rfl
  · have htext : (ofComponents rest).text.toList =
        ['/'].intercalate (rest.map fun c => c.text.toList) := by
      unfold ofComponents
      split
      · exact absurd rfl (hplain .root List.mem_cons_self).ne_root
      · simp [String.toList_intercalate, Function.comp_def]
    rw [List.nil_append, htext, reading_intercalate hplain]
  · have htext : (ofComponents (.root :: rest)).text.toList =
        '/' :: ['/'].intercalate (rest.map fun c => c.text.toList) := by
      simp [ofComponents, String.toList_intercalate, Function.comp_def]
    rw [List.singleton_append, htext, reading, inside_intercalate hplain]

/-- The normal form of a path has normal components. -/
theorem components_normalize (p : Path) :
    p.normalize.components = normalComponents p.components := by
  obtain ⟨base, rest, hnormal, hbase, hplain⟩ := normalComponents_plain p
  rw [normalize, hnormal, components_ofComponents hbase hplain]

/-- Names leave the normal form of what is in front of them as it is. -/
theorem normalComponents_append_names (components : List Component) {names : List Component}
    (hnames : ∀ c ∈ names, c.isName = true) :
    normalComponents (components ++ names) = normalComponents components ++ names := by
  have hfold : ∀ backwards, names.foldl foldComponent backwards = names.reverse ++ backwards := by
    induction names with
    | nil => exact fun _ => rfl
    | cons c rest ih =>
        intro backwards
        obtain ⟨hc, hrest⟩ := List.forall_mem_cons.mp hnames
        cases c with
        | name n =>
            rw [List.foldl_cons, ih hrest]
            simp [foldComponent]
        | _ => cases hc
  simp [normalComponents, List.foldl_append, hfold]

end Path

end QuickFix
