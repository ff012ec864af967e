import QuickFix.Proofs.Match

/-!
The trees that patterns are read to. Groups are numbered from one on, so apart from the two ends of
a program nothing notes where the whole match starts and ends; and nothing goes back to the first
instruction of a program.
-/

namespace QuickFix.Regex

namespace Node

/-- A property that a tree has if its parts have it and its groups are numbered from one on. -/
structure Inherited (p : Node → Prop) : Prop where
  empty : p .empty
  set : ∀ s, p (.set s)
  assert : ∀ a, p (.assert a)
  group : ∀ index name body, index ≠ 0 → p body → p (.group index name body)
  repeated : ∀ body min max greedy, p body → p (.repeated body min max greedy)
  cat : ∀ a b, p a → p b → p (.cat a b)
  alt : ∀ a b, p a → p b → p (.alt a b)

namespace Inherited

variable {p : Node → Prop} (hinherited : Inherited p)
include hinherited

theorem repeating {body : Node} (hbody : p body) (min : Nat) (max : Option Nat) (greedy : Bool) :
    p (body.repeating min max greedy) := by
  unfold Node.repeating
  split
  split
  · exact hinherited.empty
  · split
    · exact hbody
    · exact hinherited.repeated _ _ _ _ hbody

theorem cats {nodes : List Node} (hnodes : ∀ n ∈ nodes, p n) : p (.cats nodes) := by
  induction nodes with
  | nil => exact hinherited.empty
  | cons n rest ih =>
      obtain ⟨hn, hrest⟩ := List.forall_mem_cons.mp hnodes
      cases rest with
      | nil => exact hn
      | cons _ _ => exact hinherited.cat _ _ hn (ih hrest)

theorem alts {nodes : List Node} (hnodes : ∀ n ∈ nodes, p n) : p (.alts nodes) := by
  induction nodes with
  | nil => exact hinherited.empty
  | cons n rest ih =>
      obtain ⟨hn, hrest⟩ := List.forall_mem_cons.mp hnodes
      cases rest with
      | nil => exact hn
      | cons _ _ => exact hinherited.alt _ _ hn (ih hrest)

theorem concat {pieces : List Piece} (hpieces : ∀ x ∈ pieces, p x.node) :
    p (Piece.concat pieces).node := by
  match pieces with
  | [] => exact hinherited.empty
  | [x] => exact hpieces x List.mem_cons_self
  | _ :: _ :: _ =>
      refine hinherited.cats fun n hn => ?_
      obtain ⟨x, hx, rfl⟩ := List.mem_map.mp hn
      exact hpieces x (List.mem_reverse.mp hx)

theorem alternatives {pieces : List Piece} (hpieces : ∀ x ∈ pieces, p x.node) :
    p (Piece.alternatives pieces).node := by
  match pieces with
  | [] => exact hinherited.empty
  | [x] => exact hpieces x List.mem_cons_self
  | _ :: _ :: _ =>
      refine hinherited.alts fun n hn => ?_
      obtain ⟨x, hx, rfl⟩ := List.mem_map.mp hn
      exact hpieces x (List.mem_reverse.mp hx)

end Inherited

end Node

namespace Reading

/-- Whether all that was read has a property, and open groups are numbered from one on. -/
structure Holds (p : Node → Prop) (r : Reading) : Prop where
  parts : ∀ x ∈ r.parts, p x.node
  branches : ∀ x ∈ r.branches, p x.node
  groups : ∀ g ∈ r.groups, (∀ capture, g.capture = some capture → capture.1 ≠ 0) ∧
    (∀ x ∈ g.parts, p x.node) ∧ ∀ x ∈ g.branches, p x.node

variable {p : Node → Prop} {r : Reading}

theorem Holds.push (hholds : r.Holds p) {x : Piece} (hx : p x.node) : (r.push x).Holds p where
  parts := List.forall_mem_cons.mpr ⟨hx, hholds.parts⟩
  branches := hholds.branches
  groups := hholds.groups

theorem Holds.body (hinherited : Node.Inherited p) (hholds : r.Holds p) : p r.body.node :=
  hinherited.alternatives
    (List.forall_mem_cons.mpr ⟨hinherited.concat hholds.parts, hholds.branches⟩)

theorem Holds.openGroup (hholds : r.Holds p) (flags : Flags)
    {capture : Option (Nat × Option String)} (hcapture : ∀ c, capture = some c → c.1 ≠ 0) : (r.openGroup flags capture).Holds p where
  parts := nofun
  branches := nofun
  groups := List.forall_mem_cons.mpr ⟨⟨hcapture, hholds.parts, hholds.branches⟩, hholds.groups⟩

theorem Holds.closeGroup (hinherited : Node.Inherited p) (hholds : r.Holds p) {r' : Reading}
    (hclose : r.closeGroup = some r') : r'.Holds p := by
  unfold Reading.closeGroup at hclose
  split at hclose
  · cases hclose
  · rename_i g outer hgroups
    obtain rfl := Option.some.inj hclose
    have hall := hholds.groups
    rw [hgroups] at hall
    obtain ⟨⟨hcapture, hparts, hbranches⟩, houter⟩ := List.forall_mem_cons.mp hall
    refine ⟨List.forall_mem_cons.mpr ⟨?_, hparts⟩, hbranches, houter⟩
    dsimp only
    split
    · rename_i index name hsome
      exact hinherited.group _ _ _ (hcapture _ hsome) (hholds.body hinherited)
    · exact hholds.body hinherited

theorem Holds.repeatLast (hinherited : Node.Inherited p) (hholds : r.Holds p) {min : Nat}
    {max : Option Nat} {greedy : Bool} {r' : Reading}
    (hrepeat : r.repeatLast min max greedy = some r') : r'.Holds p := by
  unfold Reading.repeatLast at hrepeat
  split at hrepeat
  · rename_i x before hparts
    split at hrepeat
    · obtain rfl := Option.some.inj hrepeat
      have hall := hholds.parts
      rw [hparts] at hall
      obtain ⟨hx, hbefore⟩ := List.forall_mem_cons.mp hall
      exact ⟨List.forall_mem_cons.mpr ⟨hinherited.repeating hx _ _ _, hbefore⟩, hholds.branches,
        hholds.groups⟩
    · cases hrepeat
  · cases hrepeat

theorem Holds.openNamed (hholds : r.Holds p) {cs rest : List Char} {r' : Reading}
    (hopen : Regex.openNamed r cs = some (r', rest)) : r'.Holds p := by
  obtain ⟨⟨chars, behind⟩, _, hopen⟩ := Option.bind_eq_some_iff.mp hopen
  dsimp only at hopen
  split at hopen
  · cases hopen
  · obtain ⟨rfl, rfl⟩ := Prod.mk.inj (Option.some.inj hopen)
    refine Holds.openGroup ?_ _ ?_
    · exact ⟨hholds.parts, hholds.branches, hholds.groups⟩
    · rintro _ ⟨⟩
      exact Nat.succ_ne_zero _

theorem Holds.readGroupStart (hinherited : Node.Inherited p) (hholds : r.Holds p)
    {cs rest : List Char} {r' : Reading} (hread : Regex.readGroupStart r cs = some (r', rest)) :
    r'.Holds p := by
  unfold Regex.readGroupStart at hread
  split at hread
  · exact hholds.openNamed hread
  · cases hread
  · cases hread
  · exact hholds.openNamed hread
  · obtain ⟨⟨flags, count, behind⟩, _, hread⟩ := Option.bind_eq_some_iff.mp hread
    dsimp only at hread
    split at hread
    · split at hread
      · cases hread
      · obtain ⟨rfl, rfl⟩ := Prod.mk.inj (Option.some.inj hread)
        refine Holds.push ?_ hinherited.empty
        exact ⟨hholds.parts, hholds.branches, hholds.groups⟩
    · obtain ⟨rfl, rfl⟩ := Prod.mk.inj (Option.some.inj hread)
      exact hholds.openGroup _ nofun
    · cases hread
  · obtain ⟨rfl, rfl⟩ := Prod.mk.inj (Option.some.inj hread)
    refine Holds.openGroup ?_ _ ?_
    · exact ⟨hholds.parts, hholds.branches, hholds.groups⟩
    · rintro _ ⟨⟩
      exact Nat.succ_ne_zero _

theorem holds_of_nodeOf? (hinherited : Node.Inherited p) {flags : Flags} {primitive : Primitive}
    {n : Node} (hn : nodeOf? flags primitive = some n) : p n := by
  unfold nodeOf? at hn
  split at hn
  · split at hn
    · cases hn
    · exact Option.some.inj hn ▸ hinherited.set _
  · exact Option.some.inj hn ▸ hinherited.assert _
  · split at hn
    · exact Option.some.inj hn ▸ hinherited.set _
    · cases hn
  · obtain ⟨s, _, rfl⟩ := Option.map_eq_some_iff.mp hn
    exact hinherited.set _

theorem holds_of_readPart (hinherited : Node.Inherited p) {flags : Flags} {cs rest : List Char}
    {x : Piece} (hread : Regex.readPart flags cs = some (x, rest)) : p x.node := by
  have hleaf : ∀ {read : Option (Primitive × List Char)},
      (read.bind fun part => (nodeOf? flags part.1).bind fun n => some (.leaf n, part.2)) =
        some (x, rest) → p x.node := by
    intro read hread
    obtain ⟨part, _, hread⟩ := Option.bind_eq_some_iff.mp hread
    obtain ⟨n, hn, hread⟩ := Option.bind_eq_some_iff.mp hread
    obtain ⟨rfl, rfl⟩ := Prod.mk.inj (Option.some.inj hread)
    exact holds_of_nodeOf? hinherited hn
  unfold Regex.readPart at hread
  split at hread
  · cases hread
  · dsimp only at hread
    split at hread <;> exact hleaf hread

/-- One step of reading. -/
theorem Holds.readStep (hinherited : Node.Inherited p) (hholds : r.Holds p) {c : Char}
    {cs rest : List Char} {r' : Reading} (hread : Regex.readStep r c cs = some (r', rest)) :
    r'.Holds p := by
  have hrepeated : ∀ {min : Nat} {max : Option Nat} {greedy : Bool} {cs : List Char},
      ((r.repeatLast min max greedy).bind fun r => some (r, cs)) = some (r', rest) →
        r'.Holds p := by
    intro min max greedy cs hrepeat
    obtain ⟨again, hagain, heq⟩ := Option.bind_eq_some_iff.mp hrepeat
    obtain ⟨rfl, rfl⟩ := Prod.mk.inj (Option.some.inj heq)
    exact hholds.repeatLast hinherited hagain
  unfold Regex.readStep at hread
  split at hread
  · exact hholds.readGroupStart hinherited hread
  · obtain ⟨closed, hclosed, heq⟩ := Option.map_eq_some_iff.mp hread
    obtain ⟨rfl, rfl⟩ := Prod.mk.inj heq
    exact hholds.closeGroup hinherited hclosed
  · obtain ⟨rfl, rfl⟩ := Prod.mk.inj (Option.some.inj hread)
    exact ⟨nofun, List.forall_mem_cons.mpr ⟨hinherited.concat hholds.parts, hholds.branches⟩,
      hholds.groups⟩
  · obtain ⟨⟨s, depth, behind⟩, _, hread⟩ := Option.bind_eq_some_iff.mp hread
    obtain ⟨rfl, rfl⟩ := Prod.mk.inj (Option.some.inj hread)
    exact hholds.push (hinherited.set s)
  · exact hrepeated hread
  · exact hrepeated hread
  · exact hrepeated hread
  · obtain ⟨⟨min, max, behind⟩, _, hread⟩ := Option.bind_eq_some_iff.mp hread
    exact hrepeated hread
  · obtain ⟨⟨x, behind⟩, hpart, hread⟩ := Option.bind_eq_some_iff.mp hread
    obtain ⟨rfl, rfl⟩ := Prod.mk.inj (Option.some.inj hread)
    exact hholds.push (holds_of_readPart hinherited hpart)

theorem Holds.readAll (hinherited : Node.Inherited p) (hholds : r.Holds p) {fuel : Nat}
    {cs : List Char} {x : Piece} (hread : Regex.readAll fuel r cs = some x) : p x.node := by
  induction fuel generalizing r cs with
  | zero => cases hread
  | succ fuel ih =>
      unfold Regex.readAll at hread
      split at hread
      · split at hread
        · exact Option.some.inj hread ▸ hholds.body hinherited
        · cases hread
      · obtain ⟨⟨r', rest⟩, hstep, hread⟩ := Option.bind_eq_some_iff.mp hread
        exact ih (hholds.readStep hinherited hstep) hread

end Reading

/-- What trees inherit from their parts, all trees of patterns have. -/
theorem Node.Inherited.of_parse {p : Node → Prop} (hinherited : Inherited p) {pattern : String}
    {n : Node} (hparse : parse pattern = some n) : p n := by
  obtain ⟨x, hread, hdepth⟩ := Option.bind_eq_some_iff.mp hparse
  split at hdepth
  · obtain rfl := Option.some.inj hdepth
    have hstart : Reading.start.Holds p :=
      ⟨List.forall_mem_nil _, List.forall_mem_nil _, List.forall_mem_nil _⟩
    exact hstart.readAll hinherited hread
  · cases hdepth

namespace Node

/-- The conditions on places that stand in an expression. -/
def assertions : Node → List Assertion
  | empty => []
  | set _ => []
  | assert a => [a]
  | group _ _ body => body.assertions
  | repeated body _ _ _ => body.assertions
  | cat a b => a.assertions ++ b.assertions
  | alt a b => a.assertions ++ b.assertions

theorem number_ne_zero_of_parse {pattern : String} {n : Node} (hparse : parse pattern = some n) :
    ∀ g ∈ n.groups, g.1 ≠ 0 := by
  refine Inherited.of_parse (p := fun n => ∀ g ∈ n.groups, g.1 ≠ 0) ?_ hparse
  constructor
  · exact nofun
  · exact nofun
  · exact nofun
  · exact fun _ _ _ hindex hbody => List.forall_mem_cons.mpr ⟨hindex, hbody⟩
  · exact fun _ _ _ _ hbody => hbody
  · exact fun _ _ ha hb => List.forall_mem_append.mpr ⟨ha, hb⟩
  · exact fun _ _ ha hb => List.forall_mem_append.mpr ⟨ha, hb⟩

end Node

/-- Whether an instruction looks at no neighbours, leaves the start of the whole match alone, and
does not go back to the first instruction of a program. -/
def Inst.Plain : Inst → Prop
  | .assert _ => False
  | .save slot => slot ≠ 0
  | .jump target => target ≠ 0
  | .split first second => first ≠ 0 ∧ second ≠ 0
  | _ => True

theorem plain_branch {greedy : Bool} {turn exit : Nat} (hturn : turn ≠ 0) (hexit : exit ≠ 0) :
    (branch greedy turn exit).Plain := by
  cases greedy with
  | true => exact ⟨hturn, hexit⟩
  | false => exact ⟨hexit, hturn⟩

namespace Code

variable {code : Code} (hplain : ∀ pc, pc ≠ 0 → ∀ inst ∈ code pc, inst.Plain)
include hplain

theorem plain_times (count : Nat) {pc : Nat} (hpc : pc ≠ 0) :
    ∀ inst ∈ code.times count pc, inst.Plain := by
  induction count generalizing pc with
  | zero => exact List.forall_mem_nil _
  | succ count ih => exact List.forall_mem_append.mpr ⟨hplain pc hpc, ih (by omega)⟩

theorem plain_upTo (greedy : Bool) {exit : Nat} (hexit : exit ≠ 0) (count pc : Nat) :
    ∀ inst ∈ code.upTo greedy exit count pc, inst.Plain := by
  induction count generalizing pc with
  | zero => exact List.forall_mem_nil _
  | succ count ih =>
      refine List.forall_mem_cons.mpr ⟨plain_branch (Nat.succ_ne_zero pc) hexit, ?_⟩
      exact List.forall_mem_append.mpr ⟨hplain _ (Nat.succ_ne_zero pc), ih _⟩

theorem plain_plus (greedy : Bool) {pc : Nat} (hpc : pc ≠ 0) :
    ∀ inst ∈ code.plus greedy pc, inst.Plain :=
  List.forall_mem_append.mpr ⟨hplain pc hpc,
    List.forall_mem_singleton.mpr (plain_branch hpc (Nat.succ_ne_zero _))⟩

theorem plain_star (greedy : Bool) {pc : Nat} (hpc : pc ≠ 0) :
    ∀ inst ∈ code.star greedy pc, inst.Plain := by
  refine List.forall_mem_append.mpr ⟨List.forall_mem_cons.mpr ⟨?_, ?_⟩, ?_⟩
  · exact plain_branch (Nat.succ_ne_zero _) (Nat.succ_ne_zero _)
  · exact hplain _ (Nat.succ_ne_zero pc)
  · exact List.forall_mem_singleton.mpr hpc

theorem plain_optionalPlus (greedy : Bool) (pc : Nat) :
    ∀ inst ∈ code.optionalPlus greedy pc, inst.Plain := by
  refine List.forall_mem_append.mpr ⟨List.forall_mem_cons.mpr ⟨?_, ?_⟩, ?_⟩
  · exact plain_branch (Nat.succ_ne_zero _) (Nat.succ_ne_zero _)
  · exact hplain _ (Nat.succ_ne_zero pc)
  · exact List.forall_mem_singleton.mpr
      (plain_branch (Nat.succ_ne_zero _) (Nat.succ_ne_zero _))

end Code

namespace Node

theorem plain_code {n : Node} (hassertions : n.assertions = []) (hgroups : ∀ g ∈ n.groups, g.1 ≠ 0)
    {pc : Nat} (hpc : pc ≠ 0) : ∀ inst ∈ n.code pc, inst.Plain := by
  induction n generalizing pc with
  | empty => exact List.forall_mem_nil _
  | set s => exact List.forall_mem_singleton.mpr trivial
  | assert a => cases hassertions
  | group index name body ih =>
      obtain ⟨hindex, hbody⟩ := List.forall_mem_cons.mp hgroups
      change index ≠ 0 at hindex
      refine List.forall_mem_append.mpr ⟨List.forall_mem_cons.mpr ⟨?_, ?_⟩, ?_⟩
      · change 2 * index ≠ 0
        omega
      · exact ih hassertions hbody (Nat.succ_ne_zero pc)
      · exact List.forall_mem_singleton.mpr (Nat.succ_ne_zero _)
  | cat a b iha ihb =>
      obtain ⟨ha, hb⟩ := List.append_eq_nil_iff.mp hassertions
      obtain ⟨hga, hgb⟩ := List.forall_mem_append.mp hgroups
      exact List.forall_mem_append.mpr ⟨iha ha hga hpc, ihb hb hgb (by omega)⟩
  | alt a b iha ihb =>
      obtain ⟨ha, hb⟩ := List.append_eq_nil_iff.mp hassertions
      obtain ⟨hga, hgb⟩ := List.forall_mem_append.mp hgroups
      refine List.forall_mem_append.mpr ⟨List.forall_mem_cons.mpr ⟨?_, ?_⟩,
        List.forall_mem_cons.mpr ⟨?_, ?_⟩⟩
      · exact ⟨Nat.succ_ne_zero _, Nat.succ_ne_zero _⟩
      · exact iha ha hga (Nat.succ_ne_zero pc)
      · change _ + 2 + _ ≠ 0
        omega
      · exact ihb hb hgb (Nat.succ_ne_zero _)
  | repeated body min max greedy ih =>
      have hbody : ∀ pc, pc ≠ 0 → ∀ inst ∈ body.code pc, inst.Plain :=
        fun _ hpc => ih hassertions hgroups hpc
      cases max with
      | some most =>
          refine List.forall_mem_append.mpr ⟨Code.plain_times hbody min hpc, ?_⟩
          exact Code.plain_upTo hbody greedy (by omega) _ _
      | none =>
          cases min with
          | zero =>
              simp only [code]
              split
              · exact Code.plain_optionalPlus hbody greedy pc
              · exact Code.plain_star hbody greedy hpc
          | succ before =>
              exact List.forall_mem_append.mpr ⟨Code.plain_times hbody before hpc,
                Code.plain_plus hbody greedy (by omega)⟩

/-- Behind the first instruction, a program without assertions is plain. -/
theorem plain_program {n : Node} (hassertions : n.assertions = [])
    (hgroups : ∀ g ∈ n.groups, g.1 ≠ 0) {pc : Nat} (hpc : pc ≠ 0) {inst : Inst}
    (hinst : n.program[pc]? = some inst) : inst.Plain := by
  have hall : ∀ inst ∈ n.code 1 ++ [Inst.save 1, Inst.accept], inst.Plain := by
    refine List.forall_mem_append.mpr ⟨n.plain_code hassertions hgroups Nat.one_ne_zero, ?_⟩
    exact List.forall_mem_cons.mpr ⟨Nat.one_ne_zero, List.forall_mem_singleton.mpr trivial⟩
  obtain ⟨before, rfl⟩ := Nat.exists_eq_succ_of_ne_zero hpc
  rw [program, List.getElem?_toArray, List.cons_append, List.getElem?_cons_succ] at hinst
  exact hall inst (List.mem_of_getElem? hinst)

end Node

end QuickFix.Regex
