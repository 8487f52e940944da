import NodeFlow.Table

/-! # Tables by their look-ups

    What the operations on a table do to every look-up, and that a table is
    known once its look-ups are: two tables that answer alike are equal.
    Everything said about tables elsewhere goes through these equations. -/

set_option linter.unusedSectionVars false

namespace NodeFlow.Table

variable {κ α β : Type} [LT κ] [DecidableEq κ]

/-- A key is there exactly if it has a value. -/
theorem contains_iff {t : Table κ α} {k : κ} :
    t.contains k = true ↔ ∃ v, t.get? k = some v :=
  Option.isSome_iff_exists

/-- A key is not there exactly if it has no value. -/
theorem contains_eq_false_iff {t : Table κ α} {k : κ} :
    t.contains k = false ↔ t.get? k = none := by
  simp [contains]

/-- Entries are searched in one list and then in the other. -/
theorem lookupEntry_append (k : κ) (l m : List (κ × α)) :
    lookupEntry k (l ++ m) = (lookupEntry k l).or (lookupEntry k m) := by
  induction l with
  | nil => simp [lookupEntry]
  | cons e rest ih =>
      by_cases h : k = e.1 <;> simp [lookupEntry, h, ih]

/-- With distinct keys the order of the entries does not matter. -/
theorem lookupEntry_eq_some_iff {k : κ} {v : α} {l : List (κ × α)}
    (hl : (l.map (·.1)).Nodup) :
    lookupEntry k l = some v ↔ (k, v) ∈ l := by
  induction l with
  | nil => simp [lookupEntry]
  | cons e rest ih =>
      obtain ⟨k', v'⟩ := e
      rw [List.map_cons, List.nodup_cons] at hl
      by_cases h : k = k'
      · subst h
        have hnot : (k, v) ∉ rest := fun hm =>
          hl.1 (List.mem_map.mpr ⟨(k, v), hm, rfl⟩)
        simp [lookupEntry, hnot, eq_comm]
      · simp [lookupEntry, h, ih hl.2]

/-- A key is found where it was when values change. -/
theorem lookupEntry_map (k : κ) (f : α → β) (l : List (κ × α)) :
    lookupEntry k (l.map (fun e => (e.1, f e.2)))
      = (lookupEntry k l).map f := by
  induction l with
  | nil => rfl
  | cons e rest ih =>
      by_cases h : k = e.1 <;> simp [lookupEntry, h, ih]

/-- Every value changes in the same way. -/
@[simp] theorem get?_mapValues (t : Table κ α) (f : α → β) (k : κ) :
    (t.mapValues f).get? k = (t.get? k).map f :=
  lookupEntry_map k f t.entries

variable [DecidableLT κ] [LE κ] [Std.IsLinearOrder κ] [Std.LawfulOrderLT κ]
  {t u : Table κ α} {k : κ} {v : α}

/-! ## Keys and values -/

/-- The keys are those that have values. -/
theorem mem_keys_iff : k ∈ t.keys ↔ ∃ v, t.get? k = some v := by
  unfold keys
  constructor
  · intro h
    obtain ⟨e, he, rfl⟩ := List.mem_map.mp h
    exact ⟨e.2, (mem_entries_iff t e.1 e.2).mp he⟩
  · rintro ⟨v, h⟩
    exact List.mem_map.mpr ⟨(k, v), (mem_entries_iff t k v).mpr h, rfl⟩

/-- Keys come in order. -/
theorem keys_ascending (t : Table κ α) : t.keys.Pairwise (· < ·) := by
  rw [keys, List.pairwise_map]
  exact t.ascending

/-- No key is there twice. -/
theorem keys_nodup (t : Table κ α) : t.keys.Nodup := by
  refine List.Pairwise.imp (fun {a b} h => ?_) t.keys_ascending
  rintro rfl
  exact Std.lt_irrefl h

/-- No entry is there twice. -/
theorem entries_nodup (t : Table κ α) : t.entries.Nodup := by
  refine List.Pairwise.imp (fun {a b} h => ?_) t.ascending
  rintro rfl
  exact Std.lt_irrefl h

/-- There are no more distinct keys than entries. -/
theorem length_le_size {l : List κ} (hl : l.Nodup)
    (h : ∀ k ∈ l, t.contains k = true) : l.length ≤ t.size := by
  have hsubset : l ⊆ t.keys := fun k hk =>
    mem_keys_iff.mpr (contains_iff.mp (h k hk))
  have hlength := hl.length_le_of_subset hsubset
  rwa [keys, List.length_map] at hlength

/-- A table has no more entries than one with all its keys. -/
theorem size_le_of_contains {w : Table κ β}
    (h : ∀ k, t.contains k = true → w.contains k = true) :
    t.size ≤ w.size := by
  have hkeys : t.keys.length = t.size := List.length_map ..
  rw [← hkeys]
  exact length_le_size t.keys_nodup
    (fun k hk => h k (contains_iff.mpr (mem_keys_iff.mp hk)))

/-- A value stored under one key only occurs once. -/
theorem count_values_eq_one [DecidableEq α] (h : t.get? k = some v)
    (honly : ∀ j, t.get? j = some v → j = k) : t.values.count v = 1 := by
  have hmem : (k, v) ∈ t.entries := (mem_entries_iff t k v).mpr h
  have hfilter : t.entries.countP (fun e => e.2 == v)
      = t.entries.count (k, v) := by
    rw [List.count]
    refine List.countP_congr (fun e he => ?_)
    have hget : t.get? e.1 = some e.2 := (mem_entries_iff t e.1 e.2).mp he
    constructor
    · intro hv
      have hv' : e.2 = v := by simpa using hv
      have hk : e.1 = k := honly e.1 (hv' ▸ hget)
      simp [← hv', ← hk]
    · intro hv
      have : e = (k, v) := by simpa using hv
      simp [this]
  have hcount : t.values.count v = t.entries.countP (fun e => e.2 == v) := by
    rw [values, List.count, List.countP_map]
    rfl
  rw [hcount, hfilter]
  have hle : t.entries.count (k, v) ≤ 1 :=
    List.nodup_iff_count.mp t.entries_nodup (k, v)
  have hpos : 0 < t.entries.count (k, v) := List.count_pos_iff.mpr hmem
  omega

/-! ## Equality -/

/-- Tables that answer every look-up alike are equal. -/
theorem ext_get? (h : ∀ k, t.get? k = u.get? k) : t = u := by
  have hmem : ∀ e, e ∈ t.entries ↔ e ∈ u.entries := fun e => by
    rw [show e = (e.1, e.2) from rfl, mem_entries_iff, mem_entries_iff, h]
  have hperm : t.entries.Perm u.entries :=
    (List.perm_ext_iff_of_nodup t.entries_nodup u.entries_nodup).mpr hmem
  have heq : t.entries = u.entries :=
    hperm.eq_of_pairwise
      (fun a b _ _ hab hba => absurd (Std.lt_trans hab hba) Std.lt_irrefl)
      t.ascending u.ascending
  cases t
  cases u
  cases heq
  rfl

/-! ## Updates -/

/-- A change reaches the value of its key, if there is one. -/
theorem get?_modify (t : Table κ α) (k j : κ) (f : α → α) :
    (t.modify k f).get? j = if j = k then (t.get? k).map f else t.get? j := by
  unfold modify
  cases h : t.get? k with
  | none =>
      by_cases hj : j = k
      · simp [hj, h]
      · simp [hj]
  | some v => simp [get?_insert]

/-- A change neither adds nor removes a key. -/
theorem contains_modify (t : Table κ α) (k j : κ) (f : α → α) :
    (t.modify k f).contains j = t.contains j := by
  rw [contains, contains, get?_modify]
  split
  · rename_i hj
    rw [hj, Option.isSome_map]
  · rfl

/-- Of two values under one key the second stays. -/
theorem insert_insert (t : Table κ α) (k : κ) (v v' : α) :
    (t.insert k v).insert k v' = t.insert k v' := by
  refine ext_get? (fun j => ?_)
  simp only [get?_insert]
  split <;> rfl

/-- A key that is put in is there, besides those from before. -/
theorem contains_insert (t : Table κ α) (k j : κ) (v : α) :
    (t.insert k v).contains j = (decide (j = k) || t.contains j) := by
  by_cases hj : j = k <;> simp [contains, get?_insert, hj]

/-- Of entries that are put in with one key the last one stays. -/
theorem get?_foldl_insert (l : List (κ × α)) (t : Table κ α) (k : κ) :
    (l.foldl (fun t e => t.insert e.1 e.2) t).get? k
      = (lookupEntry k l.reverse).or (t.get? k) := by
  induction l generalizing t with
  | nil => simp [lookupEntry]
  | cons e rest ih =>
      rw [List.foldl_cons, ih, get?_insert, List.reverse_cons,
        lookupEntry_append]
      by_cases h : k = e.1 <;>
        cases lookupEntry k rest.reverse <;> simp [lookupEntry, h]

/-- Of the pairs with one key the last is found. -/
theorem get?_ofList (l : List (κ × α)) (k : κ) :
    (ofList l).get? k = lookupEntry k l.reverse := by
  rw [ofList, get?_foldl_insert, get?_empty, Option.or_none]

/-- Pairs with distinct keys are all found. -/
theorem get?_ofList_eq_some_iff {l : List (κ × α)}
    (hl : (l.map (·.1)).Nodup) :
    (ofList l).get? k = some v ↔ (k, v) ∈ l := by
  have hrev : (l.reverse.map (·.1)).Nodup := by
    rw [List.map_reverse, List.Nodup, List.pairwise_reverse]
    exact hl.imp Ne.symm
  rw [get?_ofList, lookupEntry_eq_some_iff hrev, List.mem_reverse]

end NodeFlow.Table
