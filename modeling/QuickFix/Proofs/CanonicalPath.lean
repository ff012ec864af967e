import QuickFix.Proofs.Directory

/-!
Normal forms of paths. Normalization is a fold with a stack, and the stack has one shape throughout:
names on top of the root, or on top of the double dots that a relative path begins with. So the
components of a normal form have that shape, they are left alone when they are folded again, and what
is joined to a path can as well be joined to its normal form. A reference that climbs from the
directory of a document to the root and then follows the names of a file leads to that file.
-/

namespace QuickFix

namespace Path

/-- What names can stand on: the root, or the double dots that a relative path begins with. -/
def IsGround (components : List Component) : Prop :=
  components = [.root] ∨ ∃ n, components = List.replicate n .parent

/-- Whether components are normal: names behind the root or behind double dots. -/
def IsNormal (components : List Component) : Prop :=
  ∃ ground names, components = ground ++ names ∧ IsGround ground ∧ ∀ c ∈ names, c.isName = true

theorem isGround_nil : IsGround [] := .inr ⟨0, rfl⟩

theorem IsGround.reverse {ground : List Component} (hground : IsGround ground) :
    ground.reverse = ground := by
  rcases hground with rfl | ⟨n, rfl⟩
  · rfl
  · exact List.reverse_replicate

/-- The shape of the stack: names, and at its bottom what they stand on. -/
def IsStack (backwards : List Component) : Prop :=
  ∃ names ground, backwards = names ++ ground ∧ IsGround ground ∧ ∀ c ∈ names, c.isName = true

theorem IsStack.isNormal {backwards : List Component} (hstack : IsStack backwards) :
    IsNormal backwards.reverse := by
  obtain ⟨names, ground, rfl, hground, hnames⟩ := hstack
  refine ⟨ground, names.reverse, ?_, hground, by simpa using hnames⟩
  rw [List.reverse_append, hground.reverse]

/-- Every component leaves the stack in shape. -/
theorem IsStack.foldComponent {backwards : List Component} (hstack : IsStack backwards)
    (c : Component) : IsStack (foldComponent backwards c) := by
  obtain ⟨names, ground, rfl, hground, hnames⟩ := hstack
  cases c with
  | root => exact ⟨[], [.root], rfl, .inl rfl, by simp⟩
  | current => exact ⟨names, ground, rfl, hground, hnames⟩
  | name n => exact ⟨.name n :: names, ground, rfl, hground, List.forall_mem_cons.mpr ⟨rfl, hnames⟩⟩
  | parent =>
      cases names with
      | nil =>
          rcases hground with rfl | ⟨n, rfl⟩
          · exact ⟨[], [.root], rfl, .inl rfl, hnames⟩
          · refine ⟨[], List.replicate (n + 1) .parent, ?_, .inr ⟨n + 1, rfl⟩, hnames⟩
            cases n <;> rfl
      | cons last before =>
          obtain ⟨hlast, hbefore⟩ := List.forall_mem_cons.mp hnames
          cases last with
          | name n => exact ⟨before, ground, rfl, hground, hbefore⟩
          | _ => cases hlast

theorem IsStack.foldl {backwards : List Component} (hstack : IsStack backwards)
    (components : List Component) : IsStack (components.foldl Path.foldComponent backwards) := by
  induction components generalizing backwards with
  | nil => exact hstack
  | cons c rest ih => exact ih (hstack.foldComponent c)

theorem isNormal_normalComponents (components : List Component) :
    IsNormal (normalComponents components) := by
  have hempty : IsStack [] := ⟨[], [], rfl, isGround_nil, by simp⟩
  exact (hempty.foldl components).isNormal

theorem IsNormal.current_not_mem {components : List Component} (hnormal : IsNormal components) :
    .current ∉ components := by
  obtain ⟨ground, names, rfl, hground, hnames⟩ := hnormal
  intro hmem
  rcases List.mem_append.mp hmem with hin | hin
  · rcases hground with rfl | ⟨n, rfl⟩
    · simp at hin
    · cases List.eq_of_mem_replicate hin
  · cases hnames _ hin

/-- With the root in it, a normal form is the root and names. -/
theorem IsNormal.of_root_mem {components : List Component} (hnormal : IsNormal components)
    (hroot : .root ∈ components) :
    ∃ names, components = .root :: names ∧ ∀ c ∈ names, c.isName = true := by
  obtain ⟨ground, names, rfl, hground, hnames⟩ := hnormal
  rcases hground with rfl | ⟨n, rfl⟩
  · exact ⟨names, rfl, hnames⟩
  · rcases List.mem_append.mp hroot with hin | hin
    · cases List.eq_of_mem_replicate hin
    · cases hnames _ hin

/-- Without it, a normal form is double dots and names. -/
theorem IsNormal.of_root_not_mem {components : List Component} (hnormal : IsNormal components)
    (hroot : .root ∉ components) :
    ∃ n names, components = List.replicate n .parent ++ names ∧ ∀ c ∈ names, c.isName = true := by
  obtain ⟨ground, names, rfl, hground, hnames⟩ := hnormal
  rcases hground with rfl | ⟨n, rfl⟩
  · exact absurd (List.mem_append_left names List.mem_cons_self) hroot
  · exact ⟨n, names, rfl, hnames⟩

theorem normalComponents_of_isGround {ground : List Component} (hground : IsGround ground) :
    normalComponents ground = ground := by
  rcases hground with rfl | ⟨n, rfl⟩
  · rfl
  · have hfold : ∀ k, (List.replicate n Component.parent).foldl foldComponent
        (List.replicate k .parent) = List.replicate (k + n) .parent := by
      induction n with
      | zero => exact fun k => rfl
      | succ n ih =>
          intro k
          have hpush : foldComponent (List.replicate k .parent) .parent =
              List.replicate (k + 1) .parent := by cases k <;> rfl
          rw [List.replicate_succ, List.foldl_cons, hpush, ih, Nat.add_right_comm, Nat.add_assoc]
    have hall := hfold 0
    rw [Nat.zero_add] at hall
    rw [normalComponents]
    exact (congrArg List.reverse hall).trans List.reverse_replicate

/-- Normal components are left alone. -/
theorem IsNormal.normalComponents_eq {components : List Component} (hnormal : IsNormal components) :
    normalComponents components = components := by
  obtain ⟨ground, names, rfl, hground, hnames⟩ := hnormal
  rw [normalComponents_append_names ground hnames, normalComponents_of_isGround hground]

theorem normalComponents_append (front behind : List Component) :
    normalComponents (front ++ behind) =
      (behind.foldl foldComponent (front.foldl foldComponent [])).reverse :=
  congrArg List.reverse List.foldl_append

/-- What stands behind components can as well stand behind their normal form. -/
theorem normalComponents_normal_append (front behind : List Component) :
    normalComponents (normalComponents front ++ behind) = normalComponents (front ++ behind) := by
  have hfold : (normalComponents front).foldl foldComponent [] = front.foldl foldComponent [] := by
    apply List.reverse_injective
    exact (isNormal_normalComponents front).normalComponents_eq
  rw [normalComponents_append, normalComponents_append, hfold]

theorem root_mem_foldl {backwards components : List Component} :
    .root ∈ components.foldl foldComponent backwards ↔ .root ∈ backwards ∨ .root ∈ components := by
  induction components generalizing backwards with
  | nil => simp
  | cons c rest ih =>
      have hstep : .root ∈ foldComponent backwards c ↔ .root ∈ backwards ∨ .root = c := by
        cases c with
        | root => simp [foldComponent]
        | current => simp [foldComponent]
        | name n => simp [foldComponent]
        | parent =>
            cases backwards with
            | nil => simp [foldComponent]
            | cons last before => cases last <;> simp [foldComponent]
      rw [List.foldl_cons, ih, hstep, List.mem_cons, or_assoc]

/-- Nothing takes the root away. -/
theorem root_mem_normalComponents {components : List Component} :
    .root ∈ normalComponents components ↔ .root ∈ components := by
  rw [normalComponents, List.mem_reverse, root_mem_foldl]
  simp

theorem isAbsolute_iff (p : Path) : p.isAbsolute = true ↔ .root ∈ p.components := by
  cases habsolute : p.isAbsolute with
  | true =>
      obtain ⟨cs, _, hcomponents⟩ := components_of_isAbsolute habsolute
      simp [hcomponents]
  | false =>
      have hroot : .root ∉ p.components.filter (· ≠ .current) := by
        rw [filter_components_of_relative habsolute]
        exact fun hmem => (plain_of_mem_inside hmem).ne_root rfl
      simpa using hroot

theorem isAbsolute_normalize (p : Path) : p.normalize.isAbsolute = p.isAbsolute := by
  rw [Bool.eq_iff_iff, isAbsolute_iff, isAbsolute_iff, components_normalize,
    root_mem_normalComponents]

theorem normalize_normalize (p : Path) : p.normalize.normalize = p.normalize := by
  have hnormal := isNormal_normalComponents p.components
  rw [normalize, components_normalize, hnormal.normalComponents_eq, normalize]

theorem foldl_filter_current (backwards components : List Component) :
    (components.filter (· ≠ .current)).foldl foldComponent backwards =
      components.foldl foldComponent backwards := by
  induction components generalizing backwards with
  | nil => rfl
  | cons c rest ih =>
      by_cases hc : c = .current
      · rw [List.filter_cons_of_neg (by simpa using hc), ih, hc]
        rfl
      · rw [List.filter_cons_of_pos (by simpa using hc), List.foldl_cons, List.foldl_cons, ih]

/-- The normal form of what is joined to a directory is that of the components of both. -/
theorem normalComponents_join {directory p : Path} (hp : p.isAbsolute = false) :
    normalComponents (directory.join p).components =
      normalComponents (directory.components ++ p.components) := by
  by_cases hdirectory : directory.text = ""
  · obtain ⟨text⟩ := directory
    obtain rfl : text = "" := hdirectory
    have hjoin : Path.join ⟨""⟩ p = p := by
      rw [join, if_neg (by simp [hp])]
      simp
    rw [hjoin]
    rfl
  · rw [components_join hp hdirectory, normalComponents_append, normalComponents_append,
      foldl_filter_current]

/-- What is joined to a path can as well be joined to its normal form. -/
theorem normalize_join_normalize {p q : Path} (hq : q.isAbsolute = false) :
    (p.normalize.join q).normalize = (p.join q).normalize := by
  apply congrArg ofComponents
  rw [normalComponents_join hq, normalComponents_join hq, components_normalize,
    normalComponents_normal_append]

/-- A path that leads from the root to a file, with no component too many. -/
structure IsDirect (p : Path) : Prop where
  absolute : p.isAbsolute = true
  normal : p.normalize.components = p.components
  named : p.fileName?.isSome = true

theorem IsDirect.exists_names {p : Path} (hp : p.IsDirect) :
    ∃ names, p.components = .root :: names ∧ ∀ c ∈ names, c.isName = true := by
  have hnormal : IsNormal p.components := by
    rw [← hp.normal, components_normalize]
    exact isNormal_normalComponents p.components
  exact hnormal.of_root_mem ((isAbsolute_iff p).mp hp.absolute)

theorem IsDirect.ne_root {p : Path} (hp : p.IsDirect) : p.components ≠ [.root] := by
  intro hroot
  have hnamed := hp.named
  simp [fileName?, hroot] at hnamed

/-- The directory of such a path is the root and names. -/
theorem IsDirect.exists_directory_names {p : Path} (hp : p.IsDirect) :
    ∃ names, (DocumentSource.directory p).components = .root :: names ∧
      ∀ c ∈ names, c.isName = true := by
  obtain ⟨names, hcomponents, hnames⟩ := hp.exists_names
  have hne : names ≠ [] := by
    intro hnil
    exact hp.ne_root (hnil ▸ hcomponents)
  refine ⟨names.dropLast, ?_, fun c hc => hnames c (List.dropLast_subset names hc)⟩
  rw [components_directory hp.absolute hp.ne_root, hcomponents, List.dropLast_cons_of_ne_nil hne]

/-- The reference that climbs some directories and then follows the names of a path. -/
def detour (p : Path) (ups : Nat) : String :=
  "/".intercalate
    (List.replicate ups ".." ++ (p.components.filter Component.isName).map Component.text)

theorem plain_of_mem_components {p : Path} {c : Component} (hc : c ∈ p.components)
    (hname : c.isName = true) : c.Plain := by
  obtain ⟨front, rest, hcomponents, hfront, hplain⟩ := components_plain p
  rw [hcomponents] at hc
  rcases List.mem_append.mp hc with hin | hin
  · rcases hfront with rfl | rfl | rfl
    · cases hin
    · obtain rfl := List.mem_singleton.mp hin
      cases hname
    · obtain rfl := List.mem_singleton.mp hin
      cases hname
  · exact hplain c hin

theorem components_detour (p : Path) (ups : Nat) :
    (Path.mk (p.detour ups)).components =
      List.replicate ups .parent ++ p.components.filter Component.isName := by
  have hplain : ∀ c ∈ List.replicate ups .parent ++ p.components.filter Component.isName,
      c.Plain := by
    intro c hc
    rcases List.mem_append.mp hc with hin | hin
    · rw [List.eq_of_mem_replicate hin]
      exact ⟨by decide, rfl⟩
    · obtain ⟨hmem, hname⟩ := List.mem_filter.mp hin
      exact plain_of_mem_components hmem hname
  have hspelled : Path.mk (p.detour ups) =
      ofComponents ([] ++ (List.replicate ups .parent ++ p.components.filter Component.isName)) := by
    rw [List.nil_append, ofComponents]
    · rw [detour, List.map_append, List.map_replicate]
      rfl
    · intro rest hrest
      exact (hplain .root (hrest ▸ List.mem_cons_self)).ne_root rfl
  rw [hspelled]
  exact components_ofComponents (.inl rfl) hplain

theorem isAbsolute_detour (p : Path) (ups : Nat) : isAbsolute ⟨p.detour ups⟩ = false := by
  rw [Bool.eq_false_iff, ne_eq, isAbsolute_iff, components_detour]
  intro hroot
  rcases List.mem_append.mp hroot with hin | hin
  · cases List.eq_of_mem_replicate hin
  · cases (List.mem_filter.mp hin).2

/-- As many double dots as there are names lead to the root, and more of them do not lead further. -/
theorem foldl_replicate_parent {names : List Component} (hnames : ∀ c ∈ names, c.isName = true)
    {ups : Nat} (hups : names.length ≤ ups) :
    (List.replicate ups .parent).foldl foldComponent (names ++ [.root]) = [.root] := by
  induction ups generalizing names with
  | zero =>
      obtain rfl := List.length_eq_zero_iff.mp (Nat.le_zero.mp hups)
      rfl
  | succ ups ih =>
      rw [List.replicate_succ, List.foldl_cons]
      cases names with
      | nil => exact ih hnames (Nat.zero_le ups)
      | cons last before =>
          obtain ⟨hlast, hbefore⟩ := List.forall_mem_cons.mp hnames
          cases last with
          | name n => exact ih hbefore (Nat.le_of_succ_le_succ hups)
          | _ => cases hlast

theorem normalComponents_detour {names more : List Component}
    (hnames : ∀ c ∈ names, c.isName = true) (hmore : ∀ c ∈ more, c.isName = true) {ups : Nat}
    (hups : names.length ≤ ups) :
    normalComponents (.root :: names ++ (List.replicate ups .parent ++ more)) = .root :: more := by
  have hnormal : IsNormal (.root :: names) := ⟨[.root], names, rfl, .inl rfl, hnames⟩
  have hfold : (Component.root :: names).foldl foldComponent [] = names.reverse ++ [.root] := by
    apply List.reverse_injective
    exact hnormal.normalComponents_eq.trans (by simp)
  have hclimbed : (List.replicate ups Component.parent).foldl foldComponent
      (names.reverse ++ [.root]) = [.root] :=
    foldl_replicate_parent (by simpa using hnames) (by simpa using hups)
  rw [← List.append_assoc, normalComponents_append_names _ hmore, normalComponents_append, hfold,
    hclimbed]
  rfl

end Path

namespace DocumentSource

theorem reference_relative (source : DocumentSource) (active : Document) {reference : String}
    (hrelative : Path.isAbsolute ⟨reference⟩ = false) :
    source.reference active reference =
      .ok ((directory active.path).join ⟨reference⟩).normalize := by
  rw [DocumentSource.reference]
  split
  · rename_i rooted hrooted
    simp [Path.isAbsolute, hrooted] at hrelative
  · rfl

/-- From its directory up to the root and down again, a reference leads to the file it names. -/
theorem reference_detour (source : DocumentSource) {active : Document} {target : Path}
    (hactive : active.path.IsDirect) (htarget : target.IsDirect) {ups : Nat}
    (hups : (directory active.path).components.length ≤ ups + 1) :
    source.reference active (target.detour ups) = .ok target.normalize := by
  obtain ⟨names, hnames, hall⟩ := hactive.exists_directory_names
  obtain ⟨more, hmore, hall'⟩ := htarget.exists_names
  have hfilter : target.components.filter Component.isName = more := by
    rw [hmore, List.filter_cons_of_neg (by decide)]
    exact List.filter_eq_self.mpr hall'
  rw [hnames, List.length_cons] at hups
  have hcomponents : Path.normalComponents
      ((directory active.path).join ⟨target.detour ups⟩).components =
        Path.normalComponents target.components := by
    rw [Path.normalComponents_join (Path.isAbsolute_detour target ups), Path.components_detour,
      hnames, hfilter, Path.normalComponents_detour hall hall' (Nat.le_of_succ_le_succ hups),
      ← Path.components_normalize, htarget.normal, hmore]
  rw [source.reference_relative active (Path.isAbsolute_detour target ups)]
  exact congrArg (fun components => Except.ok (Path.ofComponents components)) hcomponents

end DocumentSource

namespace Path

/-- What the normal form of a path is like. -/
structure HasNormalForm (p : Path) : Prop where
  absolute : p.normalize.isAbsolute = p.isAbsolute
  no_dot : .current ∉ p.normalize.components
  /-- Behind the root stand names. -/
  rooted : p.isAbsolute = true →
    ∃ names, p.normalize.components = .root :: names ∧ ∀ c ∈ names, c.isName = true
  /-- In a relative path double dots may come before them. -/
  relative : p.isAbsolute = false →
    ∃ n names, p.normalize.components = List.replicate n .parent ++ names ∧
      ∀ c ∈ names, c.isName = true
  fixed : p.normalize.normalize = p.normalize
  joined : ∀ q : Path, q.isAbsolute = false →
    (p.normalize.join q).normalize = (p.join q).normalize

theorem hasNormalForm (p : Path) : p.HasNormalForm := by
  have hnormal : IsNormal p.normalize.components := by
    rw [components_normalize]
    exact isNormal_normalComponents p.components
  have hroot : .root ∈ p.normalize.components ↔ p.isAbsolute = true := by
    rw [← isAbsolute_iff, isAbsolute_normalize]
  exact {
    absolute := p.isAbsolute_normalize
    no_dot := hnormal.current_not_mem
    rooted := fun habsolute => hnormal.of_root_mem (hroot.mpr habsolute)
    relative := fun hrelative => hnormal.of_root_not_mem (by simp [hroot, hrelative])
    fixed := p.normalize_normalize
    joined := fun _ hq => normalize_join_normalize hq }

/-- Every path has a normal form, which what is joined to it does not tell from the path. So the
reference from one file to another, up to the root and down again, leads there. -/
theorem normal_and_reached :
    (∀ p : Path, p.HasNormalForm) ∧
      ∀ (source : DocumentSource) (active : Document) (target : Path) (ups : Nat),
        active.path.IsDirect → target.IsDirect →
          (DocumentSource.directory active.path).components.length ≤ ups + 1 →
            source.reference active (target.detour ups) = .ok target.normalize ∧
              target.normalize.components = target.components := by
  refine ⟨hasNormalForm, ?_⟩
  intro source active target ups hactive htarget hups
  exact ⟨source.reference_detour hactive htarget hups, htarget.normal⟩

end Path

namespace CanonicalPathWitness

def active : Document := .ofText ⟨"/w/src/a.rs"⟩ "rust" ""

def source : DocumentSource := ⟨some active, [active], DocumentSource.scan [active], fun _ => none⟩

/-- From one directory to its neighbour, all the way over the root. -/
theorem detour_to_neighbour :
    active.path.IsDirect ∧ (Path.mk "/w/lib/b.rs").IsDirect ∧
      (DocumentSource.directory active.path).components.length ≤ 2 + 1 ∧
      source.reference active "../../w/lib/b.rs" = .ok ⟨"/w/lib/b.rs"⟩ := by
  have hactive : active.path.IsDirect := ⟨by decide, by decide, by decide⟩
  have htarget : (Path.mk "/w/lib/b.rs").IsDirect := ⟨by decide, by decide, by decide⟩
  have hups : (DocumentSource.directory active.path).components.length ≤ 2 + 1 := by decide
  have hreached := (Path.normal_and_reached.2 source active _ 2 hactive htarget hups).1
  exact ⟨hactive, htarget, hups, hreached⟩

end CanonicalPathWitness

end QuickFix
