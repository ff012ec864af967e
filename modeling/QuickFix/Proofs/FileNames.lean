import QuickFix.Action.Resolve
import QuickFix.Proofs.CanonicalPath
import QuickFix.Proofs.PlainText
import QuickFix.Proofs.Reference

/-!
Names of files. The name of a file is cut at its last dot, and stem and extension make it up again
unless the dot is its last character. Behind its directory the name leads to the file, so a file
reference that comes to the name of the active document means that document. Of the variables of the
file the later ones are filled last, so a name may itself spell a variable that is filled behind it.
-/

namespace QuickFix

namespace Path

variable {path : Path} {n : String}

/-- A name is left as it is, or it is cut at a dot. -/
theorem splitName_cases (name : List Char) :
    splitName name = (name, none) ∨ ∃ stem behind,
      splitName name = (stem, some behind) ∧ name = stem ++ '.' :: behind := by
  by_cases hstem : ((name.reverse.dropWhile (· ≠ '.')).drop 1).reverse = []
  · exact .inl (if_pos hstem)
  · refine .inr ⟨_, _, if_neg hstem, ?_⟩
    have hname := List.takeWhile_append_dropWhile (p := (· ≠ '.')) (l := name.reverse)
    have hhead := List.head?_dropWhile_not (· ≠ '.') name.reverse
    cases hdrop : name.reverse.dropWhile (· ≠ '.') with
    | nil =>
        rw [hdrop] at hstem
        exact absurd rfl hstem
    | cons c front =>
        rw [hdrop] at hhead hname
        obtain rfl : c = '.' := by simpa using hhead
        simpa using (congrArg List.reverse hname).symm

theorem eq_of_fileName? (hname : path.fileName? = some n) :
    path.components = path.components.dropLast ++ [.name n] := by
  rw [fileName?] at hname
  split at hname
  · rename_i hlast
    obtain rfl := Option.some.inj hname
    exact (List.dropLast_append_getLast? _ hlast).symm
  · cases hname

theorem plain_of_fileName? (hname : path.fileName? = some n) : (Component.name n).Plain := by
  apply plain_of_mem_components (p := path) _ rfl
  rw [eq_of_fileName? hname]
  exact List.mem_append_right _ List.mem_cons_self

theorem ne_root_of_fileName? (hname : path.fileName? = some n) : path.components ≠ [.root] := by
  intro hroot
  simp [fileName?, hroot] at hname

theorem components_of_plain_name (hplain : (Component.name n).Plain) :
    (Path.mk n).components = [.name n] := by
  have hspelled : Path.mk n = ofComponents ([] ++ [.name n]) := by
    simp [ofComponents, Component.text]
  rw [hspelled]
  exact components_ofComponents (.inl rfl) (by simpa using hplain)

theorem isAbsolute_of_plain_name (hplain : (Component.name n).Plain) :
    isAbsolute ⟨n⟩ = false := by
  rw [Bool.eq_false_iff, ne_eq, isAbsolute_iff, components_of_plain_name hplain]
  simp

/-- Behind its directory the name of a file leads to the file. -/
theorem components_directory_join (hp : path.isAbsolute = true) (hname : path.fileName? = some n) :
    ((DocumentSource.directory path).join ⟨n⟩).components = path.components := by
  have hplain := plain_of_fileName? hname
  have hdirectory := components_directory hp (ne_root_of_fileName? hname)
  have htext : (DocumentSource.directory path).text ≠ "" := by
    intro hempty
    have hnone : (Path.mk (DocumentSource.directory path).text).components = [] := by
      rw [hempty]
      rfl
    have hroot := (isAbsolute_iff path).mp hp
    rw [eq_of_fileName? hname, ← hdirectory, hnone] at hroot
    cases List.mem_singleton.mp hroot
  rw [components_join (isAbsolute_of_plain_name hplain) htext, components_of_plain_name hplain,
    hdirectory, eq_of_fileName? hname]
  simp

end Path

namespace FileVariables

variable {path : Path} {n : String}

theorem name_ofPath (hname : path.fileName? = some n) : (ofPath path).name = n := by
  rw [ofPath, hname, Option.getD_some]

/-- Unless a name ends in a dot, it is its stem and its extension, one behind the other. -/
theorem stem_append_extension (hname : path.fileName? = some n)
    (hdot : n.toList.getLast? ≠ some '.') :
    (ofPath path).stem ++ (ofPath path).extension = n := by
  simp only [ofPath, Path.fileStem?, Path.extension?, hname, Option.map_some, Option.bind_some,
    Option.getD_some]
  rcases Path.splitName_cases n.toList with hsplit | ⟨stem, behind, hsplit, hn⟩
  · simp [hsplit]
  · have hbehind : behind ≠ [] := by
      rintro rfl
      exact hdot (by simp [hn])
    have hstring : String.ofList behind ≠ "" := by simpa using hbehind
    have hextension : Option.map String.ofList (Path.splitName n.toList).2 =
        some (String.ofList behind) := by
      rw [hsplit, Option.map_some]
    simp only [hextension]
    apply String.toList_injective
    simp [hsplit, ← hn]

/-- The directory among the variables is the one that references start from. -/
theorem mk_directory_ofPath (path : Path) :
    Path.mk (ofPath path).directory = DocumentSource.directory path := by
  rw [DocumentSource.directory]
  cases hparent : path.parent? with
  | none => simp [ofPath, hparent]
  | some parent => simp [ofPath, hparent]

end FileVariables

namespace Template

variable {v w : FileVariable} {value cs : List Char}

/-- A variable does not begin in what stands in front of another one and end in that one. -/
theorem prefix_of_prefix_append (hne : cs ≠ []) (hfront : v.spelling <+: cs ++ w.spelling) :
    v.spelling <+: cs := by
  obtain ⟨-, -, hdollar⟩ := v.label_facts
  obtain ⟨behind, hbehind⟩ := hfront
  rcases List.append_eq_append_iff.mp hbehind with ⟨rest, hcs, -⟩ | ⟨rest, hspelled, hrest⟩
  · exact ⟨rest, hcs.symm⟩
  · cases rest with
    | nil =>
        exact ⟨[], by simp [hspelled]⟩
    | cons c rest =>
        obtain rfl : '$' = c := (List.cons.inj hrest).1
        obtain ⟨first, cs, rfl⟩ := List.exists_cons_of_ne_nil hne
        have htail : '\x7b' :: v.label.toList ++ ['\x7d'] = cs ++ '$' :: rest :=
          (List.cons.inj hspelled).2
        have hmem : '$' ∈ '\x7b' :: v.label.toList ++ ['\x7d'] := by
          rw [htail]
          exact List.mem_append_right _ List.mem_cons_self
        simp [hdollar] at hmem

/-- The pass of a variable keeps a text that does not spell it. -/
theorem rewrite_of_not_spelled (hcs : ¬ v.spelling <:+: cs) :
    Text.rewrite (Text.wordToken v.spelling value) cs = cs := by
  apply Text.rewrite_of_none
  intro behind hbehind _
  apply wordToken_eq_none
  rintro rest rfl
  exact hcs ((List.prefix_append v.spelling rest).isInfix.trans hbehind.isInfix)

theorem rewrite_front (hcs : ¬ v.spelling <:+: cs) (w : FileVariable) :
    Text.rewrite (Text.wordToken v.spelling value) (cs ++ w.spelling) =
      cs ++ Text.rewrite (Text.wordToken v.spelling value) w.spelling := by
  apply Text.rewrite_append_of_none
  intro behind hbehind hne
  apply wordToken_eq_none
  intro rest heq
  have hfront := prefix_of_prefix_append hne ⟨rest, heq.symm⟩
  exact hcs (hfront.isInfix.trans hbehind.isInfix)

theorem rewrite_own : Text.rewrite (Text.wordToken v.spelling value) v.spelling = value :=
  Text.rewrite_eq_of_append rewrite_variable

/-- The variables are filled one after the other. -/
theorem fillFile_eq_foldl (file : FileVariables) (text : List Char) :
    fillFile file text = [FileVariable.stem, .name, .extension, .directory].foldl
      (fun text v => Text.rewrite (Text.wordToken v.spelling (v.read file)) text) text := rfl

/-- The template of some variables, one behind the other. -/
def variablesText (vs : List FileVariable) : String :=
  String.ofList (vs.flatMap FileVariable.spelling)

end Template

namespace Renderer

open Template

variable {r : Renderer} {file : FileVariables}

theorem fillAt_family (f : Family) (vs : List FileVariable) :
    r.fillAt (vs.flatMap FileVariable.spelling) (.family f) =
      vs.flatMap FileVariable.spelling := by
  unfold fillAt
  split
  · rename_i token? hreader
    obtain ⟨value, -, rfl⟩ := Option.map_eq_some_iff.mp hreader
    exact Text.rewrite_flatMap fun v _ => keeps_variable v
  · rfl

theorem render_variablesText (hfile : r.file = some file) (vs : List FileVariable) :
    r.render (variablesText vs) =
      String.ofList (fillFile file (vs.flatMap FileVariable.spelling)) := by
  rw [render_eq, variablesText, String.toList_ofList, renderChars_eq_foldl, fillFile_eq_foldl]
  simp only [Pass.all, List.foldl_cons, List.foldl_nil, fillAt_family]
  simp only [fillAt, reader?, hfile, Option.map_some]

/-- The name of the file stays as it is unless it spells a variable that is filled behind it. -/
theorem render_name (hfile : r.file = some file)
    (hlater : ∀ v ∈ [FileVariable.extension, .directory], ¬ v.spelling <:+: file.name.toList) :
    r.render (variablesText [.name]) = file.name := by
  have hstem : Text.rewrite (Text.wordToken FileVariable.stem.spelling file.stem.toList)
      FileVariable.name.spelling = FileVariable.name.spelling :=
    (keeps_other_variable (by decide)).rewrite_eq
  rw [render_variablesText hfile, fillFile_eq_foldl]
  simp only [List.foldl_cons, List.foldl_nil, FileVariable.read, List.flatMap_cons,
    List.flatMap_nil, List.append_nil]
  rw [hstem, rewrite_own, rewrite_of_not_spelled (hlater .extension (by simp)),
    rewrite_of_not_spelled (hlater .directory (by simp)), String.ofList_toList]

/-- So do the stem and the extension. -/
theorem render_stem_extension (hfile : r.file = some file)
    (hlater : ∀ v ∈ [FileVariable.name, .extension, .directory],
      ¬ v.spelling <:+: (file.stem ++ file.extension).toList) :
    r.render (variablesText [.stem, .extension]) = file.stem ++ file.extension := by
  rw [String.toList_append] at hlater
  have hstem : ∀ v ∈ [FileVariable.name, .extension, .directory],
      ¬ v.spelling <:+: file.stem.toList := by
    intro v hv hspelled
    exact hlater v hv (hspelled.trans (List.prefix_append _ _).isInfix)
  have hkept : ∀ v : FileVariable, v ≠ .extension → ∀ value,
      Text.rewrite (Text.wordToken v.spelling value) FileVariable.extension.spelling =
        FileVariable.extension.spelling := by
    intro v hv value
    exact (keeps_other_variable hv.symm).rewrite_eq
  rw [render_variablesText hfile, fillFile_eq_foldl]
  simp only [List.foldl_cons, List.foldl_nil, FileVariable.read, List.flatMap_cons,
    List.flatMap_nil, List.append_nil]
  rw [rewrite_variable, hkept .stem (by decide), rewrite_front (hstem .name (by simp)),
    hkept .name (by decide), rewrite_front (hstem .extension (by simp)), rewrite_own,
    rewrite_of_not_spelled (hlater .directory (by simp)), ← String.toList_append,
    String.ofList_toList]

end Renderer

namespace Path

open Template

/-- What it is for the parts of a file name to make up the path of the file again. -/
structure Recomposes (path : Path) (n : String) : Prop where
  name : (FileVariables.ofPath path).name = n
  /-- Unless the name ends in a dot, it is the stem with the extension behind it. -/
  parts : n.toList.getLast? ≠ some '.' →
    (FileVariables.ofPath path).stem ++ (FileVariables.ofPath path).extension =
      (FileVariables.ofPath path).name
  /-- The name in the directory has the components of the path. -/
  joined : ((Path.mk (FileVariables.ofPath path).directory).join
    ⟨(FileVariables.ofPath path).name⟩).components = path.components
  /-- The template of the name comes to the name, unless the name spells a variable that is filled
  behind it. -/
  whole : ∀ r : Renderer, r.file = some (.ofPath path) →
    (∀ v ∈ [FileVariable.extension, .directory], ¬ v.spelling <:+: n.toList) →
      r.render (variablesText [.name]) = n
  /-- So does the template of stem and extension. -/
  rebuilt : ∀ r : Renderer, r.file = some (.ofPath path) → n.toList.getLast? ≠ some '.' →
    (∀ v ∈ [FileVariable.name, .extension, .directory], ¬ v.spelling <:+: n.toList) →
      r.render (variablesText [.stem, .extension]) = n
  /-- From the document at the path, the name is a reference to the normal form of the path. -/
  reached : ∀ (source : DocumentSource) (active : Document), active.path = path →
    source.reference active n = .ok path.normalize
  /-- So a reference that comes to the name means the active document, if its path goes nowhere
  up and the document at it is the active one. -/
  denoted : ∀ (ctx : StepContext) (step : EditStep), ctx.active.path = path →
    (step.target.map ctx.renderer.render).or ctx.defaultFile = some n →
      .parent ∉ path.components →
        (∀ q : Path, q.components = path.components → ctx.source.find? q = some ctx.active) →
          ctx.target step = .ok ctx.active

variable {path : Path} {n : String}

theorem reference_name (hp : path.isAbsolute = true) (hname : path.fileName? = some n)
    (source : DocumentSource) {active : Document} (hactive : active.path = path) :
    source.reference active n = .ok path.normalize := by
  rw [source.reference_relative active (isAbsolute_of_plain_name (plain_of_fileName? hname)),
    hactive, normalize_congr (components_directory_join hp hname)]

/-- A path from the root that goes nowhere up is normal. -/
theorem components_normalize_of_no_parent (hp : path.isAbsolute = true)
    (hup : .parent ∉ path.components) : path.normalize.components = path.components := by
  obtain ⟨cs, _, hcomponents⟩ := components_of_isAbsolute hp
  have hnames : ∀ c ∈ inside cs, c.isName = true := by
    intro c hc
    apply (plain_of_mem_inside hc).isName
    rintro rfl
    exact hup (hcomponents ▸ List.mem_cons_of_mem _ hc)
  have hnormal : IsNormal path.components := ⟨[.root], inside cs, hcomponents, .inl rfl, hnames⟩
  rw [components_normalize, hnormal.normalComponents_eq]

/-- The parts of a file name make up the path of the file again. -/
theorem recomposes_of_fileName? (hp : path.isAbsolute = true) (hname : path.fileName? = some n) :
    path.Recomposes n where
  name := FileVariables.name_ofPath hname
  parts hdot := by
    rw [FileVariables.stem_append_extension hname hdot, FileVariables.name_ofPath hname]
  joined := by
    rw [FileVariables.mk_directory_ofPath, FileVariables.name_ofPath hname,
      components_directory_join hp hname]
  whole r hfile hlater := by
    rw [← FileVariables.name_ofPath hname] at hlater ⊢
    exact Renderer.render_name hfile hlater
  rebuilt r hfile hdot hlater := by
    rw [← FileVariables.stem_append_extension hname hdot] at hlater ⊢
    exact Renderer.render_stem_extension hfile hlater
  reached source active hactive := reference_name hp hname source hactive
  denoted ctx step hactive htext hup hfind := by
    have hopened := hfind path.normalize (components_normalize_of_no_parent hp hup)
    simp only [StepContext.target, htext, reference_name hp hname ctx.source hactive, hopened]

end Path

namespace FileNamesWitness

open Template

def document (path : String) : Document := ⟨⟨path⟩, "rust", 0, []⟩

/-- What the steps have in common if a document is the only one. -/
def context (active : Document) : StepContext where
  renderer := ⟨⟨none, none⟩, {}, some (.ofPath active.path)⟩
  active := active
  source := ⟨some active, [active], DocumentSource.scan [active], fun _ => none⟩
  defaultFile := none

/-- An insertion into the file that some variables come to. -/
def step (vs : List FileVariable) : EditStep := (EditStep.insert "x").inFile (variablesText vs)

/-- A path with a dot inside and a slash at its end, and more than one dot in the name. -/
def dotted : Document := document "/w/./a.b.rs/"

theorem target_dotted :
    dotted.path.isAbsolute = true ∧ dotted.path.fileName? = some "a.b.rs" ∧
      (FileVariables.ofPath dotted.path).stem = "a.b" ∧
      (context dotted).source.reference dotted "a.b.rs" = .ok ⟨"/w/a.b.rs"⟩ ∧
      (context dotted).target (step [.name]) = .ok dotted ∧
      (context dotted).target (step [.stem, .extension]) = .ok dotted := by
  have hp : dotted.path.isAbsolute = true := by decide
  have hname : dotted.path.fileName? = some "a.b.rs" := by decide
  have hrecomposes := Path.recomposes_of_fileName? hp hname
  have hplain : ∀ v : FileVariable, ¬ v.spelling <:+: "a.b.rs".toList := by
    intro v hspelled
    exact absurd (hspelled.subset List.mem_cons_self) (by decide)
  have hfind : ∀ q : Path, q.components = dotted.path.components →
      (context dotted).source.find? q = some dotted := by
    intro q hq
    simp [context, DocumentSource.scan, hq]
  have hwhole := hrecomposes.whole (context dotted).renderer rfl fun v _ => hplain v
  have hrebuilt := hrecomposes.rebuilt (context dotted).renderer rfl (by decide) fun v _ => hplain v
  refine ⟨hp, hname, by decide, hrecomposes.reached _ _ rfl, ?_, ?_⟩
  · exact hrecomposes.denoted _ _ rfl (congrArg some hwhole) (by decide) hfind
  · exact hrecomposes.denoted _ _ rfl (congrArg some hrebuilt) (by decide) hfind

/-- A file whose name is a variable that is filled behind the name. -/
def spelled : Document := document "/w/$\x7bfileExtname\x7d"

/-- A path that goes up. -/
def climbing : Document := document "/w/../a.rs"

/-- The variable is read in the name, so nothing is left of the reference but the directory; the
normal form of a path that goes up is another path; and a name that ends in a dot is not its stem
with the extension behind it. -/
theorem not_denoted_spelled :
    spelled.path.isAbsolute = true ∧ spelled.path.fileName? = some "$\x7bfileExtname\x7d" ∧
      (context spelled).target (step [.name]) = .error (.unresolvedDocument ⟨"/w"⟩) ∧
      climbing.path.isAbsolute = true ∧ climbing.path.fileName? = some "a.rs" ∧
      (context climbing).target (step [.name]) = .error (.unresolvedDocument ⟨"/a.rs"⟩) ∧
      (FileVariables.ofPath ⟨"/w/a."⟩).name ≠
        (FileVariables.ofPath ⟨"/w/a."⟩).stem ++ (FileVariables.ofPath ⟨"/w/a."⟩).extension := by
  exact ⟨by decide, by decide, rfl, by decide, by decide, rfl, by decide⟩

end FileNamesWitness

end QuickFix
