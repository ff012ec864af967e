/-!
Sorting keeps the order of what it cannot tell apart. So two lists sort alike if for every key they
have the same elements with that key in the same order.
-/

namespace QuickFix

variable {α κ : Type} [DecidableEq κ] {le : α → α → Bool} (key : α → κ)

/-- Elements that stand in order before sorting stand in that order behind it. -/
theorem filter_mergeSort (htrans : ∀ a b c, le a b = true → le b c = true → le a c = true)
    (htotal : ∀ a b, (le a b || le b a) = true) {l : List α} {chosen : α → Bool}
    (hordered : (l.filter chosen).Pairwise fun a b => le a b = true) :
    (l.mergeSort le).filter chosen = l.filter chosen := by
  have hsub : (l.filter chosen).Sublist (l.mergeSort le) :=
    List.sublist_mergeSort htrans htotal hordered List.filter_sublist
  have hchosen : (l.filter chosen).Sublist ((l.mergeSort le).filter chosen) := by
    simpa using hsub.filter chosen
  have hlength := ((List.mergeSort_perm l le).filter chosen).length_eq
  exact (hchosen.eq_of_length hlength.symm).symm

/-- Two sorted lists are equal if they have the same elements for each key in the same order. -/
theorem eq_of_filter_key_eq (hkey : ∀ a b, le a b = true → le b a = true → key a = key b)
    {l m : List α} (hl : l.Pairwise fun a b => le a b = true)
    (hm : m.Pairwise fun a b => le a b = true)
    (hsame : ∀ k, l.filter (key · = k) = m.filter (key · = k)) : l = m := by
  induction l generalizing m with
  | nil =>
      cases m with
      | nil => rfl
      | cons b bs => simpa using hsame (key b)
  | cons a as ih =>
      cases m with
      | nil => simpa using hsame (key a)
      | cons b bs =>
          obtain ⟨ha, has⟩ := List.pairwise_cons.mp hl
          obtain ⟨hb, hbs⟩ := List.pairwise_cons.mp hm
          have hab : key a = key b := by
            have hbl : b ∈ a :: as := by
              have hmem : b ∈ (b :: bs).filter (key · = key b) := by simp
              rw [← hsame (key b)] at hmem
              exact (List.mem_filter.mp hmem).1
            have ham : a ∈ b :: bs := by
              have hmem : a ∈ (a :: as).filter (key · = key a) := by simp
              rw [hsame (key a)] at hmem
              exact (List.mem_filter.mp hmem).1
            rcases List.mem_cons.mp hbl with rfl | hbas
            · rfl
            · rcases List.mem_cons.mp ham with rfl | habs
              · rfl
              · exact hkey a b (ha b hbas) (hb a habs)
          have hhead := hsame (key a)
          rw [List.filter_cons_of_pos (by simp), List.filter_cons_of_pos (by simp [hab])] at hhead
          obtain ⟨rfl, _⟩ := List.cons.inj hhead
          rw [ih has hbs]
          intro k
          have hk := hsame k
          by_cases hak : key a = k
          · rw [List.filter_cons_of_pos (by simp [hak]), List.filter_cons_of_pos (by simp [hak])] at hk
            exact (List.cons.inj hk).2
          · rwa [List.filter_cons_of_neg (by simp [hak]), List.filter_cons_of_neg (by simp [hak])] at hk

/-- Lists that have the same elements for each key in the same order sort alike. -/
theorem mergeSort_eq_of_filter_key_eq
    (htrans : ∀ a b c, le a b = true → le b c = true → le a c = true)
    (htotal : ∀ a b, (le a b || le b a) = true)
    (hkey : ∀ a b, le a b = true → le b a = true → key a = key b)
    (htied : ∀ a b, key a = key b → le a b = true) {l m : List α}
    (hsame : ∀ k, l.filter (key · = k) = m.filter (key · = k)) :
    l.mergeSort le = m.mergeSort le := by
  have hordered : ∀ k (l : List α),
      (l.filter (key · = k)).Pairwise fun a b => le a b = true := by
    intro k l
    apply List.pairwise_of_forall_mem_list
    intro a ha b hb
    have hak := of_decide_eq_true (List.mem_filter.mp ha).2
    have hbk := of_decide_eq_true (List.mem_filter.mp hb).2
    exact htied a b (hak.trans hbk.symm)
  apply eq_of_filter_key_eq key hkey (List.pairwise_mergeSort htrans htotal l)
    (List.pairwise_mergeSort htrans htotal m)
  intro k
  rw [filter_mergeSort htrans htotal (hordered k l), filter_mergeSort htrans htotal (hordered k m),
    hsame k]

end QuickFix
