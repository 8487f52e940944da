/-! # Tables

    A table is a finite map kept as a list of entries in strictly ascending
    key order.  Two tables with the same look-ups are therefore the same
    table, and writing one out in key order is reading the list.

    Main statements: `get?_insert` and `get?_erase` say what an update does
    to every look-up, `mem_entries_iff` that the entries are exactly the
    look-ups that answer, and `ofList_entries` that rebuilding a table from
    its own entries changes nothing. -/

set_option linter.unusedSectionVars false

namespace NodeFlow

/-- A finite map from `κ` to `α`, in ascending key order. -/
structure Table (κ : Type) (α : Type) [LT κ] where
  /-- The entries, least key first. -/
  entries : List (κ × α)
  /-- No key occurs twice and the keys ascend. -/
  ascending : entries.Pairwise (fun a b => a.1 < b.1)

namespace Table

variable {κ α β : Type} [LT κ]

instance [DecidableEq κ] [DecidableEq α] : DecidableEq (Table κ α) :=
  fun a b =>
    decidable_of_iff (a.entries = b.entries)
      ⟨fun h => by cases a; cases b; cases h; rfl, fun h => h ▸ rfl⟩

instance [Repr κ] [Repr α] : Repr (Table κ α) :=
  ⟨fun t n => reprPrec t.entries n⟩

/-- The table without entries. -/
def empty : Table κ α := ⟨[], List.Pairwise.nil⟩

instance : EmptyCollection (Table κ α) := ⟨empty⟩

instance : Inhabited (Table κ α) := ⟨empty⟩

/-- The keys, ascending. -/
def keys (t : Table κ α) : List κ := t.entries.map (·.1)

/-- The values, in key order. -/
def values (t : Table κ α) : List α := t.entries.map (·.2)

/-- The number of entries. -/
def size (t : Table κ α) : Nat := t.entries.length

/-- Whether there is no entry. -/
def isEmpty (t : Table κ α) : Bool := t.entries.isEmpty

/-- The value of the first entry with key `k`. -/
def lookupEntry [DecidableEq κ] (k : κ) : List (κ × α) → Option α
  | [] => none
  | (k', v) :: rest => if k = k' then some v else lookupEntry k rest

/-- The value stored under `k`. -/
def get? [DecidableEq κ] (t : Table κ α) (k : κ) : Option α :=
  lookupEntry k t.entries

/-- Whether something is stored under `k`. -/
def contains [DecidableEq κ] (t : Table κ α) (k : κ) : Bool :=
  (t.get? k).isSome

/-- Put `(k, v)` where it belongs among ascending entries, in place of an
    entry with the same key. -/
def insertEntry [DecidableLT κ] (k : κ) (v : α) :
    List (κ × α) → List (κ × α)
  | [] => [(k, v)]
  | (k', v') :: rest =>
      if k < k' then (k, v) :: (k', v') :: rest
      else if k' < k then (k', v') :: insertEntry k v rest
      else (k, v) :: rest

theorem mem_insertEntry [DecidableLT κ] {k : κ} {v : α} {e : κ × α}
    {l : List (κ × α)} (h : e ∈ insertEntry k v l) :
    e = (k, v) ∨ e ∈ l := by
  induction l with
  | nil => simpa [insertEntry] using h
  | cons hd tl ih =>
      obtain ⟨k', v'⟩ := hd
      rw [insertEntry] at h
      split at h
      · simpa using h
      · split at h
        · rcases List.mem_cons.mp h with h | h
          · exact Or.inr (h ▸ List.mem_cons_self ..)
          · exact (ih h).imp id (List.mem_cons_of_mem _)
        · rcases List.mem_cons.mp h with h | h
          · exact Or.inl h
          · exact Or.inr (List.mem_cons_of_mem _ h)

variable [DecidableEq κ] [DecidableLT κ] [LE κ] [Std.IsLinearOrder κ]
  [Std.LawfulOrderLT κ]

omit [DecidableEq κ] in
/-- Entries stay in order when one is put in. -/
theorem insertEntry_ascending (k : κ) (v : α) {l : List (κ × α)}
    (h : l.Pairwise (fun a b => a.1 < b.1)) :
    (insertEntry k v l).Pairwise (fun a b => a.1 < b.1) := by
  induction l with
  | nil => simp [insertEntry]
  | cons hd tl ih =>
      obtain ⟨k', v'⟩ := hd
      rw [insertEntry]
      have hd_lt : ∀ e ∈ tl, k' < e.1 := fun e he =>
        List.rel_of_pairwise_cons h he
      split
      · rename_i hlt
        refine h.cons (fun e he => ?_)
        rcases List.mem_cons.mp he with rfl | he
        · exact hlt
        · exact Std.lt_trans hlt (hd_lt e he)
      · split
        · rename_i hgt
          refine (ih h.of_cons).cons (fun e he => ?_)
          rcases mem_insertEntry he with rfl | he
          · exact hgt
          · exact hd_lt e he
        · rename_i hle hge
          have hk : k = k' := Std.Trichotomous.trichotomous (r := (· < ·)) k k' hle hge
          subst hk
          exact h.of_cons.cons (fun e he => hd_lt e he)

/-- Store `v` under `k`, in place of what was there. -/
def insert (t : Table κ α) (k : κ) (v : α) : Table κ α :=
  ⟨insertEntry k v t.entries, insertEntry_ascending k v t.ascending⟩

omit [DecidableLT κ] [LE κ] [Std.IsLinearOrder κ] [Std.LawfulOrderLT κ] in
/-- Forget what is stored under `k`. -/
def erase (t : Table κ α) (k : κ) : Table κ α :=
  ⟨t.entries.filter (fun e => e.1 ≠ k), t.ascending.filter _⟩

/-- Replace the value under `k`, if there is one, by its image. -/
def modify (t : Table κ α) (k : κ) (f : α → α) : Table κ α :=
  match t.get? k with
  | some v => t.insert k (f v)
  | none => t

/-- Store every pair of a list in turn: the last of two pairs with one key
    wins. -/
def ofList (pairs : List (κ × α)) : Table κ α :=
  pairs.foldl (fun t e => t.insert e.1 e.2) empty

/-- Store every entry of the second table over the first. -/
def merge (t u : Table κ α) : Table κ α :=
  u.entries.foldl (fun t e => t.insert e.1 e.2) t

omit [DecidableEq κ] [DecidableLT κ] [LE κ] [Std.IsLinearOrder κ]
  [Std.LawfulOrderLT κ] in
/-- The entries whose key and value satisfy `p`. -/
def filter (t : Table κ α) (p : κ → α → Bool) : Table κ α :=
  ⟨t.entries.filter (fun e => p e.1 e.2), t.ascending.filter _⟩

omit [DecidableEq κ] [DecidableLT κ] [LE κ] [Std.IsLinearOrder κ]
  [Std.LawfulOrderLT κ] in
/-- The image of every value. -/
def mapValues (t : Table κ α) (f : α → β) : Table κ β :=
  ⟨t.entries.map (fun e => (e.1, f e.2)), by
    rw [List.pairwise_map]
    exact t.ascending⟩

/-! ## Look-ups after an update -/

omit [DecidableLT κ] [LE κ] [Std.IsLinearOrder κ] [Std.LawfulOrderLT κ] in
@[simp] theorem get?_empty (k : κ) : (empty : Table κ α).get? k = none := rfl

theorem lookupEntry_insertEntry (k j : κ) (v : α) (l : List (κ × α)) :
    lookupEntry j (insertEntry k v l)
      = if j = k then some v else lookupEntry j l := by
  induction l with
  | nil => simp [insertEntry, lookupEntry]
  | cons hd tl ih =>
      obtain ⟨k', v'⟩ := hd
      rw [insertEntry]
      split
      · simp [lookupEntry]
      · split
        · rename_i hgt
          have hne : k ≠ k' := fun h => Std.lt_irrefl (h ▸ hgt)
          by_cases hj : j = k'
          · have : j ≠ k := fun h => hne (h.symm.trans hj)
            simp [lookupEntry, hj, Ne.symm hne]
          · simp [lookupEntry, hj, ih]
        · rename_i hle hge
          have hk : k = k' := Std.Trichotomous.trichotomous (r := (· < ·)) k k' hle hge
          subst hk
          by_cases hj : j = k <;> simp [lookupEntry, hj]

/-- A value that is put in is found, and the others as before. -/
theorem get?_insert (t : Table κ α) (k j : κ) (v : α) :
    (t.insert k v).get? j = if j = k then some v else t.get? j :=
  lookupEntry_insertEntry k j v t.entries

omit [DecidableLT κ] [LE κ] [Std.IsLinearOrder κ] [Std.LawfulOrderLT κ] in
theorem lookupEntry_filter_ne (k j : κ) (l : List (κ × α)) :
    lookupEntry j (l.filter (fun e => e.1 ≠ k))
      = if j = k then none else lookupEntry j l := by
  induction l with
  | nil => simp [lookupEntry]
  | cons hd tl ih =>
      obtain ⟨k', v⟩ := hd
      by_cases hk : k' = k
      · by_cases hj : j = k
        · rw [List.filter_cons_of_neg (by simp [hk]), ih]
          simp [hj]
        · rw [List.filter_cons_of_neg (by simp [hk]), ih]
          have : j ≠ k' := fun h => hj (h.trans hk)
          simp [lookupEntry, hj, this]
      · rw [List.filter_cons_of_pos (by simp [hk])]
        by_cases hj : j = k'
        · have : j ≠ k := fun h => hk (hj.symm.trans h)
          simp [lookupEntry, hj, hk]
        · simp only [lookupEntry, hj, if_false]
          exact ih

omit [DecidableLT κ] [LE κ] [Std.IsLinearOrder κ] [Std.LawfulOrderLT κ] in
/-- A key that is erased is not found, and the others as before. -/
theorem get?_erase (t : Table κ α) (k j : κ) :
    (t.erase k).get? j = if j = k then none else t.get? j :=
  lookupEntry_filter_ne k j t.entries

/-! ## A table is its look-ups -/

omit [DecidableLT κ] [LE κ] [Std.IsLinearOrder κ] [Std.LawfulOrderLT κ] in
theorem mem_of_lookupEntry {k : κ} {v : α} {l : List (κ × α)}
    (h : lookupEntry k l = some v) : (k, v) ∈ l := by
  induction l with
  | nil => simp [lookupEntry] at h
  | cons hd tl ih =>
      obtain ⟨k', v'⟩ := hd
      rw [lookupEntry] at h
      split at h
      · rename_i hk
        subst hk
        simp_all
      · exact List.mem_cons_of_mem _ (ih h)

/-- In entries in order each is found under its key. -/
theorem lookupEntry_of_mem {k : κ} {v : α} {l : List (κ × α)}
    (hl : l.Pairwise (fun a b => a.1 < b.1)) (h : (k, v) ∈ l) :
    lookupEntry k l = some v := by
  induction l with
  | nil => simp at h
  | cons hd tl ih =>
      obtain ⟨k', v'⟩ := hd
      rcases List.mem_cons.mp h with h | h
      · cases h
        simp [lookupEntry]
      · have hlt : k' < k := List.rel_of_pairwise_cons hl h
        have hne : k ≠ k' := fun e => Std.lt_irrefl (e ▸ hlt)
        simp [lookupEntry, hne, ih hl.of_cons h]

/-- The entries are what is found. -/
theorem mem_entries_iff (t : Table κ α) (k : κ) (v : α) :
    (k, v) ∈ t.entries ↔ t.get? k = some v :=
  ⟨lookupEntry_of_mem t.ascending, mem_of_lookupEntry⟩

/-- Inserting a key above all others appends it. -/
theorem insertEntry_append (k : κ) (v : α) {l : List (κ × α)}
    (h : ∀ e ∈ l, e.1 < k) : insertEntry k v l = l ++ [(k, v)] := by
  induction l with
  | nil => rfl
  | cons hd tl ih =>
      obtain ⟨k', v'⟩ := hd
      have hlt : k' < k := h (k', v') (List.mem_cons_self ..)
      have hnlt : ¬ k < k' := fun h' => Std.lt_irrefl (Std.lt_trans hlt h')
      rw [insertEntry, if_neg hnlt, if_pos hlt,
        ih (fun e he => h e (List.mem_cons_of_mem _ he))]
      rfl

/-- By induction over the entries: those that come in order are put in one
    after the other. -/
theorem foldl_insert_entries (t : Table κ α) (l : List (κ × α))
    (hl : (t.entries ++ l).Pairwise (fun a b => a.1 < b.1)) :
    (l.foldl (fun t e => t.insert e.1 e.2) t).entries = t.entries ++ l := by
  induction l generalizing t with
  | nil => simp
  | cons e rest ih =>
      have hlt : ∀ a ∈ t.entries, a.1 < e.1 := fun a ha =>
        (List.pairwise_append.mp hl).2.2 a ha e (List.mem_cons_self ..)
      have hins : (t.insert e.1 e.2).entries = t.entries ++ [e] :=
        insertEntry_append e.1 e.2 hlt
      rw [List.foldl_cons, ih _ (by rw [hins]; simpa using hl), hins]
      simp

/-- A table is rebuilt from its own entries. -/
theorem ofList_entries (t : Table κ α) : ofList t.entries = t := by
  have h := foldl_insert_entries (empty : Table κ α) t.entries
    (by simpa [empty] using t.ascending)
  cases t with
  | mk l hl =>
      unfold ofList
      generalize List.foldl _ _ _ = u at h
      cases u
      simp [empty] at h
      subst h
      rfl

end Table
end NodeFlow
