/-! # Lists of things with a key

    Facts about lists whose members are told apart by a key. -/

namespace NodeFlow

variable {α β : Type} {l : List α} {f : α → β} {a b : α}

/-- Members with one key are one member. -/
theorem eq_of_key (h : (l.map f).Nodup) (ha : a ∈ l) (hb : b ∈ l)
    (hf : f a = f b) : a = b := by
  have hpair := List.pairwise_map.mp h
  have hall := List.Pairwise.forall_of_forall_of_flip
    (R := fun x y => f x = f y → x = y) (l := l) (fun _ _ _ => rfl)
    (hpair.imp (fun hne heq => absurd heq hne))
    (hpair.imp (fun hne heq => absurd heq.symm hne))
  exact hall ha hb hf

/-- A member can be put first. -/
theorem perm_cons_filter [DecidableEq β] (h : (l.map f).Nodup) (ha : a ∈ l) :
    l.Perm (a :: l.filter (fun x => f x != f a)) := by
  induction l with
  | nil => cases ha
  | cons x rest ih =>
      rw [List.map_cons, List.nodup_cons] at h
      by_cases hx : f x = f a
      · -- no other element has this key, so nothing else is filtered out
        have hax : x = a := by
          rcases List.mem_cons.mp ha with rfl | ha
          · rfl
          · exact absurd (List.mem_map.mpr ⟨a, ha, hx.symm⟩) h.1
        have hrest : rest.filter (fun y => f y != f a) = rest := by
          refine List.filter_eq_self.mpr (fun y hy => ?_)
          have hne : f y ≠ f a := fun heq =>
            h.1 (List.mem_map.mpr ⟨y, hy, heq.trans hx.symm⟩)
          simpa using hne
        rw [List.filter_cons_of_neg (by simp [hx]), hrest, hax]
      · have harest : a ∈ rest := by
          rcases List.mem_cons.mp ha with rfl | ha
          · exact absurd rfl hx
          · exact ha
        rw [List.filter_cons_of_pos (by simp [hx])]
        exact ((ih h.2 harest).cons x).trans (.swap a x _)

/-- What comes first of its kind does so still when others are left out. -/
theorem find?_filter_of_find? {p q : α → Bool} (h : l.find? q = some a)
    (hp : p a = true) : (l.filter p).find? q = some a := by
  obtain ⟨hq, before, after, rfl, hbefore⟩ :=
    List.find?_eq_some_iff_append.mp h
  refine List.find?_eq_some_iff_append.mpr
    ⟨hq, before.filter p, after.filter p, ?_, ?_⟩
  · rw [List.filter_append, List.filter_cons_of_pos hp]
  · exact fun x hx => hbefore x (List.mem_filter.mp hx).1

/-- Lists of pairs are equal if their keys are and no key has two values. -/
theorem eq_of_keys {γ : Type} {l m : List (β × γ)}
    (h : l.map Prod.fst = m.map Prod.fst)
    (hsame : ∀ k x y, (k, x) ∈ l → (k, y) ∈ m → x = y) : l = m := by
  induction l generalizing m with
  | nil =>
      cases m with
      | nil => rfl
      | cons q m => cases h
  | cons p l ih =>
      cases m with
      | nil => cases h
      | cons q m =>
          obtain ⟨hhead, htail⟩ := List.cons.inj h
          have hpq : p = q := by
            refine Prod.ext hhead (hsame p.1 p.2 q.2 List.mem_cons_self ?_)
            rw [show p.1 = q.1 from hhead]
            exact List.mem_cons_self
          have hrest := ih htail (fun k x y hx hy =>
            hsame k x y (List.mem_cons_of_mem p hx) (List.mem_cons_of_mem q hy))
          rw [hpq, hrest]

/-- Lists of pairs with the same distinct keys have the same members if no key
    has two values. -/
theorem perm_of_keys {γ : Type} {l m : List (β × γ)}
    (hl : (l.map Prod.fst).Nodup) (hm : (m.map Prod.fst).Nodup)
    (hkeys : ∀ k, k ∈ l.map Prod.fst ↔ k ∈ m.map Prod.fst)
    (hsame : ∀ k x y, (k, x) ∈ l → (k, y) ∈ m → x = y) : l.Perm m := by
  have hnodup : ∀ n : List (β × γ), (n.map Prod.fst).Nodup → n.Nodup :=
    fun n hn => (List.pairwise_map.mp hn).imp
      (fun hne heq => hne (congrArg Prod.fst heq))
  refine (List.perm_ext_iff_of_nodup (hnodup l hl) (hnodup m hm)).mpr ?_
  rintro ⟨k, x⟩
  constructor
  · intro hx
    obtain ⟨⟨k', y⟩, hy, rfl⟩ := List.mem_map.mp
      ((hkeys k).mp (List.mem_map.mpr ⟨(k, x), hx, rfl⟩))
    rwa [hsame k' x y hx hy]
  · intro hx
    obtain ⟨⟨k', y⟩, hy, rfl⟩ := List.mem_map.mp
      ((hkeys k).mpr (List.mem_map.mpr ⟨(k, x), hx, rfl⟩))
    rwa [← hsame k' y x hy hx]

/-- A transitive relation without cycles leaves some member with nothing
    before it. -/
theorem exists_minimal {r : α → α → Prop} (hirrefl : ∀ x, ¬ r x x)
    (htrans : ∀ x y z, r x y → r y z → r x z) (hl : l ≠ []) :
    ∃ m ∈ l, ∀ x ∈ l, ¬ r x m := by
  induction l with
  | nil => exact absurd rfl hl
  | cons a rest ih =>
      by_cases hrest : rest = []
      · subst hrest
        refine ⟨a, List.mem_singleton_self a, fun x hx => ?_⟩
        rw [List.mem_singleton.mp hx]
        exact hirrefl a
      · obtain ⟨m, hm, hmin⟩ := ih hrest
        by_cases ham : r a m
        · refine ⟨a, List.mem_cons_self, fun x hx hxa => ?_⟩
          rcases List.mem_cons.mp hx with rfl | hx
          · exact hirrefl x hxa
          · exact hmin x hx (htrans x a m hxa ham)
        · refine ⟨m, List.mem_cons_of_mem a hm, fun x hx => ?_⟩
          rcases List.mem_cons.mp hx with rfl | hx
          · exact ham
          · exact hmin x hx

end NodeFlow
