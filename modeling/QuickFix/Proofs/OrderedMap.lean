import Std.Data.TreeMap.Lemmas

/-!
The values of an ordered map: they come in the order of their keys, and they are exactly what the
keys are mapped to.
-/

namespace QuickFix

variable {α β : Type} {cmp : α → α → Ordering}

theorem values_eq_map_toList (t : Std.TreeMap α β cmp) :
    t.values = t.toList.map Prod.snd := by
  have hfold : t.values = t.foldr (fun _ v vs => v :: vs) [] := rfl
  rw [hfold, Std.TreeMap.foldr_eq_foldr_toList]
  induction t.toList with
  | nil => rfl
  | cons entry rest ih => rw [List.foldr_cons, ih, List.map_cons]

theorem mem_values_iff [Std.TransCmp cmp] [Std.LawfulEqCmp cmp] (t : Std.TreeMap α β cmp)
    (v : β) : v ∈ t.values ↔ ∃ k : α, t[k]? = some v := by
  rw [values_eq_map_toList, List.mem_map]
  constructor
  · rintro ⟨⟨k, w⟩, hmem, rfl⟩
    exact ⟨k, Std.TreeMap.mem_toList_iff_getElem?_eq_some.mp hmem⟩
  · rintro ⟨k, hk⟩
    exact ⟨(k, v), Std.TreeMap.mem_toList_iff_getElem?_eq_some.mpr hk, rfl⟩

/-- If every value tells its own key, then no two values tell the same one. -/
theorem values_pairwise_ne [Std.TransCmp cmp] [Std.LawfulEqCmp cmp] (t : Std.TreeMap α β cmp)
    (key : β → α) (hkey : ∀ (k : α) v, t[k]? = some v → key v = k) :
    t.values.Pairwise fun v w => key v ≠ key w := by
  rw [values_eq_map_toList, List.pairwise_map]
  apply List.Pairwise.imp_of_mem _ Std.TreeMap.distinct_keys_toList
  intro a b ha hb hne heq
  have hakey := hkey a.1 a.2 (Std.TreeMap.mem_toList_iff_getElem?_eq_some.mp ha)
  have hbkey := hkey b.1 b.2 (Std.TreeMap.mem_toList_iff_getElem?_eq_some.mp hb)
  apply hne
  rw [← hakey, ← hbkey, heq]
  exact Std.ReflCmp.compare_self

/-- If every value tells its own key, then what the chosen values tell are the chosen keys. -/
theorem map_filter_values [Std.TransCmp cmp] [Std.LawfulEqCmp cmp] (t : Std.TreeMap α β cmp)
    (key : β → α) (chosen : β → Bool) (chosenKey : α → Bool)
    (hkey : ∀ (k : α) v, t[k]? = some v → key v = k ∧ chosen v = chosenKey k) :
    (t.values.filter chosen).map key = t.keys.filter chosenKey := by
  have htell : ∀ entry ∈ t.toList, key entry.2 = entry.1 ∧ chosen entry.2 = chosenKey entry.1 :=
    fun entry hentry =>
      hkey entry.1 entry.2 (Std.TreeMap.mem_toList_iff_getElem?_eq_some.mp hentry)
  rw [values_eq_map_toList, ← Std.TreeMap.map_fst_toList_eq_keys]
  generalize t.toList = entries at htell ⊢
  induction entries with
  | nil => rfl
  | cons entry rest ih =>
      obtain ⟨htold, hchosen⟩ := htell entry List.mem_cons_self
      have hrest := ih fun e he => htell e (List.mem_cons_of_mem _ he)
      simp only [List.map_cons, List.filter_cons, hchosen]
      cases chosenKey entry.1 with
      | false => exact hrest
      | true => rw [if_pos rfl, if_pos rfl, List.map_cons, htold, hrest]

/-- Maps with the same lookups have the same values. -/
theorem values_eq_of_getElem? [Std.TransCmp cmp] [Std.LawfulEqCmp cmp]
    {t u : Std.TreeMap α β cmp} (hlookups : ∀ k : α, t[k]? = u[k]?) : t.values = u.values := by
  rw [values_eq_map_toList, values_eq_map_toList,
    (Std.TreeMap.Equiv.of_forall_constGet?_eq hlookups).toList_eq]

/-- The values of the other keys. -/
def valuesBut [DecidableEq α] (t : Std.TreeMap α β cmp) (k : α) : List β :=
  (t.toList.filter fun entry => k ≠ entry.1).map Prod.snd

/-- The value of a key and the values of the others, which may be those of another map. -/
theorem values_perm_of_some [DecidableEq α] [Std.TransCmp cmp] [Std.LawfulEqCmp cmp]
    {t u : Std.TreeMap α β cmp} {k : α} {v : β} (hk : t[k]? = some v)
    (hlookups : ∀ l : α, l ≠ k → t[l]? = u[l]?) : t.values.Perm (v :: valuesBut u k) := by
  have hinsert : t.values = (u.insert k v).values := by
    refine values_eq_of_getElem? fun l => ?_
    rw [Std.TreeMap.getElem?_insert]
    by_cases hl : l = k
    · subst hl
      simp [hk]
    · have hne : cmp k l ≠ .eq := fun heq => hl (Std.LawfulEqCmp.eq_of_compare heq).symm
      rw [if_neg hne, hlookups l hl]
  rw [hinsert, values_eq_map_toList]
  have hperm : (u.insert k v).toList.Perm ((k, v) :: u.toList.filter fun entry => k ≠ entry.1) := by
    simpa only [beq_iff_eq] using Std.TreeMap.toList_insert_perm (t := u) (k := k) (v := v)
  exact hperm.map Prod.snd

theorem values_eq_of_none [DecidableEq α] [Std.TransCmp cmp] [Std.LawfulEqCmp cmp]
    {t : Std.TreeMap α β cmp} {k : α} (hk : t[k]? = none) : t.values = valuesBut t k := by
  rw [values_eq_map_toList, valuesBut, List.filter_eq_self.mpr]
  rintro ⟨l, v⟩ hentry
  have hl := Std.TreeMap.mem_toList_iff_getElem?_eq_some.mp hentry
  have hne : k ≠ l := by
    rintro rfl
    exact nomatch hk.symm.trans hl
  simpa using hne

end QuickFix
