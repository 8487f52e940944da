import NodeFlow.Proofs.Registry.WellFormed

/-! # Loading records

    Of records with one identifier the first is taken in, and none of them has
    a node then.  The records that a registry exports are those that are not
    removed.

    Records are numbered, and the number to try next is greater than that of
    any record.  So it is the one that the next record gets.  An import counts
    on from the greatest number among the records that it takes in. -/

namespace NodeFlow.Registry

variable {r : Registry} {x : Record} {id : String}

/-! ## What is exported -/

/-- Whether exactly the records are listed, each of them once. -/
structure Listed (r : Registry) : Prop where
  /-- A record is stored under its identifier. -/
  named : ∀ id x, r.records.get? id = some x → x.id = id
  /-- No identifier is listed twice. -/
  distinct : r.order.Nodup
  /-- Exactly the records are listed. -/
  listed : ∀ id, id ∈ r.order ↔ r.records.contains id = true

/-- A well-formed registry lists its records. -/
theorem WellFormed.toListed (h : r.WellFormed) : r.Listed :=
  ⟨h.named, h.distinct, h.listed⟩

/-- Exported are exactly the records that are not removed. -/
theorem Listed.mem_live_iff (h : r.Listed) :
    x ∈ r.live ↔ r.records.get? x.id = some x ∧ x.removed = false := by
  unfold live
  rw [List.mem_filter, List.mem_filterMap]
  constructor
  · rintro ⟨⟨id, -, hx⟩, hrem⟩
    have hid := h.named id x hx
    exact ⟨hid ▸ hx, by simpa using hrem⟩
  · rintro ⟨hx, hrem⟩
    exact ⟨⟨x.id, (h.listed x.id).mpr (Table.contains_iff.mpr ⟨x, hx⟩), hx⟩,
      by simpa using hrem⟩

/-- The records are exported in the order of the list. -/
theorem Listed.live_ids_sublist (h : r.Listed) :
    (r.live.map Record.id).Sublist r.order := by
  have hall : ∀ l : List String,
      ((l.filterMap r.record?).map Record.id).Sublist l := by
    intro l
    induction l with
    | nil => exact .slnil
    | cons id rest ih =>
        cases hx : r.record? id with
        | none =>
            rw [List.filterMap_cons_none hx]
            exact ih.cons id
        | some x =>
            rw [List.filterMap_cons_some hx, List.map_cons, h.named id x hx]
            exact ih.cons_cons id
  exact (List.filter_sublist.map _).trans (hall r.order)

/-- A well-formed registry exports exactly the records that are not
    removed. -/
theorem WellFormed.mem_live_iff (h : r.WellFormed) :
    x ∈ r.live ↔ r.records.get? x.id = some x ∧ x.removed = false :=
  h.toListed.mem_live_iff

/-- A well-formed registry exports no record twice. -/
theorem WellFormed.live_ids_nodup (h : r.WellFormed) :
    (r.live.map Record.id).Nodup :=
  h.distinct.sublist h.toListed.live_ids_sublist

/-- No more records are exported than are listed. -/
theorem live_length_le (r : Registry) : r.live.length ≤ r.order.length :=
  Nat.le_trans (List.length_filter_le _ _) (List.length_filterMap_le _ _)

/-! ## First records -/

/-- The first record with each identifier. -/
def firsts : List Record → List Record
  | [] => []
  | x :: rest => x :: (firsts rest).filter (fun y => y.id != x.id)

/-- The first record with an identifier. -/
def first? (l : List Record) (id : String) : Option Record :=
  l.find? (fun x => x.id == id)

/-- The first record of a list comes before all others with its identifier. -/
theorem first?_cons (x : Record) (l : List Record) (id : String) :
    first? (x :: l) id = if x.id = id then some x else first? l id := by
  unfold first?
  rw [List.find?_cons]
  split <;> simp_all

/-- First records have different identifiers. -/
theorem firsts_ids_nodup (l : List Record) :
    ((firsts l).map Record.id).Nodup := by
  induction l with
  | nil => exact .nil
  | cons x rest ih =>
      rw [firsts, List.map_cons, List.nodup_cons]
      refine ⟨fun hmem => ?_, ih.sublist (List.filter_sublist.map _)⟩
      obtain ⟨y, hy, hid⟩ := List.mem_map.mp hmem
      have hne := (List.mem_filter.mp hy).2
      simp [hid] at hne

/-- A record is a first one exactly if the search for its identifier finds
    it. -/
theorem mem_firsts_iff {l : List Record} :
    x ∈ firsts l ↔ first? l x.id = some x := by
  induction l with
  | nil => simp [firsts, first?]
  | cons y rest ih =>
      rw [firsts, List.mem_cons, List.mem_filter, first?_cons]
      by_cases hid : y.id = x.id
      · simp [hid, eq_comm]
      · have hne : x ≠ y := fun heq => hid (heq ▸ rfl)
        simp [hid, hne, ih, Ne.symm hid]

/-- What the search finds has the identifier that was searched for. -/
theorem first?_id {l : List Record} (h : first? l id = some x) : x.id = id := by
  unfold first? at h
  exact beq_iff_eq.mp (List.find?_some h :)

/-- Records with distinct identifiers are all first ones. -/
theorem firsts_eq_self {l : List Record} (h : (l.map Record.id).Nodup) :
    firsts l = l := by
  induction l with
  | nil => rfl
  | cons x rest ih =>
      rw [List.map_cons, List.nodup_cons] at h
      rw [firsts, ih h.2, List.filter_eq_self.mpr]
      intro y hy
      refine bne_iff_ne.mpr (fun heq => h.1 ?_)
      exact heq ▸ List.mem_map_of_mem hy

/-- Among records with different identifiers the search finds each. -/
theorem first?_eq_some_iff {l : List Record} (h : (l.map Record.id).Nodup) :
    first? l id = some x ↔ x ∈ l ∧ x.id = id := by
  constructor
  · intro hx
    have hid := first?_id hx
    subst hid
    exact ⟨firsts_eq_self h ▸ mem_firsts_iff.mpr hx, rfl⟩
  · rintro ⟨hx, rfl⟩
    exact mem_firsts_iff.mp ((firsts_eq_self h).symm ▸ hx)

/-! ## Taking records in -/

/-- The next number once a record has been seen. -/
def nextAfter (r : Registry) (x : Record) : Nat :=
  match numberOf? x.id with
  | some n => max r.nextId (min (n + 1) (idLimit - 1))
  | none => r.nextId

/-- The number to try next stays below the limit, whatever record is seen. -/
theorem nextAfter_lt (h : r.nextId < idLimit) (x : Record) :
    r.nextAfter x < idLimit := by
  unfold nextAfter
  split
  · exact Nat.max_lt.mpr
      ⟨h, Nat.lt_of_le_of_lt (Nat.min_le_right _ _) (by decide)⟩
  · exact h

/-- A record with a new identifier comes last. -/
theorem loadRecord_fresh (h : r.records.contains x.id = false) :
    r.loadRecord x
      = { r with
          nextId := r.nextAfter x
          order := r.order ++ [x.id]
          records := r.records.insert x.id x } := by
  unfold loadRecord
  rw [if_neg (by rw [h]; exact Bool.false_ne_true)]
  rfl

/-- What a registry is once records with new identifiers are taken in. -/
structure Loaded (r r' : Registry) (l : List Record) : Prop where
  /-- Those records, and those from before. -/
  records : ∀ id x, r'.records.get? id = some x ↔
    (x ∈ l ∧ x.id = id) ∨ r.records.get? id = some x
  /-- They come last, in order. -/
  order : r'.order = r.order ++ l.map Record.id
  /-- Links stay. -/
  index : r'.index = r.index
  /-- Links stay. -/
  links : r'.links = r.links
  /-- Templates stay. -/
  templates : r'.templates = r.templates
  /-- The next number is one. -/
  nextId : r.nextId < idLimit → r'.nextId < idLimit

/-- Taking records in leaves index, links and templates as they are, and the
    number to try next below the limit. -/
theorem foldl_loadRecord_frame (l : List Record) (r : Registry) :
    (l.foldl loadRecord r).index = r.index
      ∧ (l.foldl loadRecord r).links = r.links
      ∧ (l.foldl loadRecord r).templates = r.templates
      ∧ (r.nextId < idLimit → (l.foldl loadRecord r).nextId < idLimit) := by
  induction l generalizing r with
  | nil => exact ⟨rfl, rfl, rfl, fun h => h⟩
  | cons x rest ih =>
      rw [List.foldl_cons]
      cases hx : r.records.contains x.id with
      | true =>
          rw [loadRecord, if_pos hx]
          exact ih r
      | false =>
          obtain ⟨hindex, hlinks, htemplates, hnext⟩ := ih (r.loadRecord x)
          rw [loadRecord_fresh hx] at hindex hlinks htemplates hnext ⊢
          exact ⟨hindex, hlinks, htemplates,
            fun hlt => hnext (nextAfter_lt hlt x)⟩

/-- Of records with one identifier the first is taken in. -/
theorem get?_foldl_loadRecord (l : List Record) (r : Registry) (id : String) :
    (l.foldl loadRecord r).records.get? id
      = (r.records.get? id).or (first? l id) := by
  -- by induction on what is left to be taken in; what is there already comes
  -- first
  induction l generalizing r with
  | nil => simp [first?]
  | cons x rest ih =>
      rw [List.foldl_cons, ih, first?_cons]
      cases hx : r.records.contains x.id with
      | true =>
          obtain ⟨y, hy⟩ := Table.contains_iff.mp hx
          rw [loadRecord, if_pos hx]
          by_cases hid : x.id = id
          · subst hid
            rw [hy]
            rfl
          · rw [if_neg hid]
      | false =>
          rw [loadRecord_fresh hx]
          simp only [Table.get?_insert]
          by_cases hid : x.id = id
          · subst hid
            rw [if_pos rfl, if_pos rfl, Table.contains_eq_false_iff.mp hx]
            rfl
          · rw [if_neg (Ne.symm hid), if_neg hid]

/-- New records come last, in order. -/
theorem order_foldl_loadRecord (l : List Record) (r : Registry) :
    (l.foldl loadRecord r).order
      = r.order ++ ((firsts l).filter
          (fun x => !r.records.contains x.id)).map Record.id := by
  induction l generalizing r with
  | nil => simp [firsts]
  | cons x rest ih =>
      rw [List.foldl_cons, ih, firsts, List.filter_cons, List.filter_filter]
      cases hx : r.records.contains x.id with
      | true =>
          rw [loadRecord, if_pos hx]
          simp only [Bool.not_true, Bool.false_eq_true, if_false]
          refine congrArg (fun m : List Record => r.order ++ m.map Record.id) ?_
          refine List.filter_congr (fun y _ => ?_)
          -- a record that is taken in has another identifier than `x`
          by_cases hid : y.id = x.id
          · rw [hid, hx]
            rfl
          · rw [bne_iff_ne.mpr hid, Bool.and_true]
      | false =>
          rw [loadRecord_fresh hx]
          simp only [Bool.not_false, if_true, List.map_cons,
            List.append_assoc, List.singleton_append]
          refine congrArg (fun m : List Record => r.order ++ x.id :: m.map Record.id) ?_
          refine List.filter_congr (fun y _ => ?_)
          rw [Table.contains_insert, Bool.not_or, Bool.and_comm]
          rfl

/-- After records are taken in there are exactly the first ones. -/
theorem get?_load (r : Registry) (l : List Record)
    (code : Table String SavedCode) (id : String) :
    (r.load l code).records.get? id = first? l id :=
  (get?_foldl_loadRecord l r.clear id).trans (Option.none_or ..)

/-- They are listed in their order. -/
theorem order_load (r : Registry) (l : List Record)
    (code : Table String SavedCode) :
    (r.load l code).order = (firsts l).map Record.id := by
  refine (order_foldl_loadRecord l r.clear).trans ?_
  rw [List.filter_eq_self.mpr (fun x _ => by simp [clear, Table.contains])]
  exact List.nil_append _

/-- Records with distinct identifiers are all taken in. -/
theorem loaded_load (r : Registry) {l : List Record}
    (hids : (l.map Record.id).Nodup) (code : Table String SavedCode) :
    Loaded r.clear (r.load l code) l := by
  obtain ⟨hindex, hlinks, htemplates, hnext⟩ :=
    foldl_loadRecord_frame l r.clear
  refine ⟨fun id x => ?_, ?_, hindex, hlinks, htemplates, hnext⟩
  · rw [get?_load, first?_eq_some_iff hids]
    simp [clear]
  · rw [order_load, firsts_eq_self hids]
    exact (List.nil_append _).symm

/-! ## Numbers that have been given -/

/-- A number below the limit is read from its digits. -/
theorem numberOf?_toString {n : Nat} (h : n < idLimit) :
    numberOf? (toString n) = some n := by
  have hne : Nat.toDigits 10 n ≠ [] := Nat.toDigits_ne_nil
  have hdigits := isDigit_toDigits n
  unfold numberOf?
  simp only [toList_toString]
  split
  · -- no digit is a sign
    rename_i rest hplus
    rw [hplus] at hdigits
    simp at hdigits
  · rw [hdigits, Numeral.digitsValue_toDigits]
    simp [hne, h]

/-- Whether an identifier is a number below the one to try next. -/
def Passed (r : Registry) (id : String) : Prop :=
  ∃ n, id = toString n ∧ 0 < n ∧ n < r.nextId

/-- Whether every record has a number below the one to try next. -/
structure Counted (r : Registry) : Prop where
  /-- The number to try next is one. -/
  positive : 0 < r.nextId
  /-- The records. -/
  records : ∀ id, r.records.contains id = true → r.Passed id

/-- The number to try next is still to be given. -/
theorem not_passed_next (r : Registry) : ¬ r.Passed (toString r.nextId) := by
  rintro ⟨n, heq, -, hlt⟩
  rw [toString_inj.mp heq] at hlt
  exact Nat.lt_irrefl n hlt

/-- The search for an identifier ends where it starts. -/
theorem Counted.freshId_eq (h : r.Counted) (steps : Nat) :
    freshId r.records steps r.nextId
      = (toString r.nextId, nextNumber r.nextId) := by
  cases steps with
  | zero => rfl
  | succ steps =>
      rw [freshId, if_neg]
      exact fun hused => r.not_passed_next (h.records _ hused)

/-- If all records are counted, the search for an identifier ends at once. -/
theorem Counted.nextIdentifier_eq (h : r.Counted) :
    r.nextIdentifier = toString r.nextId := by
  rw [nextIdentifier, h.freshId_eq]

/-- Once a record with a number has been seen, the next one is tried next at
    the earliest. -/
theorem nextAfter_eq {n : Nat} (hn : n + 1 < idLimit)
    (hx : x.id = toString n) : r.nextAfter x = max r.nextId (n + 1) := by
  unfold nextAfter
  rw [hx, numberOf?_toString (by omega)]
  simp only
  omega

/-- The number to try next is the least one above those of the records that
    were taken in, and not below the one from before. -/
theorem lt_nextId_foldl_iff {l : List Record} (hids : (l.map Record.id).Nodup)
    (hnew : ∀ x ∈ l, r.records.contains x.id = false)
    (hnumbers : ∀ x ∈ l, ∃ n, x.id = toString n ∧ n + 1 < idLimit) (m : Nat) :
    m < (l.foldl loadRecord r).nextId ↔
      m < r.nextId ∨ ∃ x ∈ l, ∃ n, x.id = toString n ∧ m ≤ n := by
  induction l generalizing r with
  | nil => simp
  | cons x rest ih =>
      rw [List.map_cons, List.nodup_cons] at hids
      obtain ⟨hx, hrest⟩ := List.forall_mem_cons.mp hnumbers
      obtain ⟨n, hn, hlt⟩ := hx
      have hload := loadRecord_fresh (hnew x (List.mem_cons_self ..))
      rw [List.foldl_cons, ih hids.2 (fun y hy => ?_) hrest, hload]
      · show m < r.nextAfter x ∨ _ ↔ _
        have hmax : m < max r.nextId (n + 1) ↔ m < r.nextId ∨ m ≤ n := by
          omega
        rw [nextAfter_eq hlt hn, hmax, or_assoc]
        simp only [List.mem_cons, exists_eq_or_imp, hn, toString_inj,
          exists_eq_left']
      · have hne : y.id ≠ x.id := fun heq =>
          hids.1 (List.mem_map.mpr ⟨y, hy, heq⟩)
        rw [hload]
        simp [Table.contains_insert, hne, hnew y (List.mem_cons_of_mem _ hy)]

/-- After records are taken in, exactly the numbers up to the greatest one of
    a record are not to be given again. -/
theorem lt_nextId_load_iff {l : List Record} (hids : (l.map Record.id).Nodup)
    (hnumbers : ∀ x ∈ l, ∃ n, x.id = toString n ∧ n + 1 < idLimit)
    (code : Table String SavedCode) (m : Nat) :
    m < (r.load l code).nextId ↔
      m < 1 ∨ ∃ x ∈ l, ∃ n, x.id = toString n ∧ m ≤ n :=
  lt_nextId_foldl_iff (r := r.clear) hids (by simp [clear, Table.contains])
    hnumbers m

end NodeFlow.Registry
