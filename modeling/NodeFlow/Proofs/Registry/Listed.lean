import Mathlib.Data.List.Nodup
import NodeFlow.Proofs.Registry.Mutual

/-! # Identifiers that are in use

    The search for an identifier goes from number to number, and from the
    greatest back to one, until it comes by one that no record has.  As long
    as there are fewer records than numbers it ends, so a new record takes
    nothing from another, and the list of identifiers names every record once
    (`Reached.accounted_for`). -/

namespace NodeFlow

namespace Registry

variable {r r' : Registry} {v : Handle} {id nodeType : String} {x : Record}

/-! ## The search -/

/-- What the search for an identifier comes to from a number on, however many
    numbers it has to try. -/
inductive Finds (records : Table String Record) :
    Nat → String × Nat → Prop where
  /-- A number that no record has is taken. -/
  | unused {n : Nat} (h : records.contains (toString n) = false) :
      Finds records n (toString n, nextNumber n)
  /-- After a number that a record has comes the next one. -/
  | used {n : Nat} {found : String × Nat}
      (h : records.contains (toString n) = true)
      (rest : Finds records (nextNumber n) found) : Finds records n found

/-- The search comes to one end at most. -/
theorem Finds.unique {records : Table String Record} {n : Nat}
    {a b : String × Nat} (ha : Finds records n a) (hb : Finds records n b) :
    a = b := by
  induction ha with
  | unused h =>
      cases hb with
      | unused _ => rfl
      | used h' _ => exact absurd (h.symm.trans h') Bool.false_ne_true
  | used h _ ih =>
      cases hb with
      | unused h' => exact absurd (h'.symm.trans h) Bool.false_ne_true
      | used _ rest => exact ih rest

/-- Steps that end at an unused number are a search. -/
theorem finds_freshId {records : Table String Record} (steps : Nat) {n : Nat}
    (h : records.contains (freshId records steps n).1 = false) :
    Finds records n (freshId records steps n) := by
  induction steps generalizing n with
  | zero => exact .unused h
  | succ steps ih =>
      rw [freshId] at h ⊢
      split
      · rename_i hused
        rw [if_pos hused] at h
        exact .used hused (ih h)
      · rename_i hunused
        exact .unused (Bool.not_eq_true _ ▸ hunused)

/-! ## Runs -/

/-- The registries that can be reached from one without templates and
    records. -/
inductive Reached : Registry → Prop where
  /-- The start. -/
  | empty : Reached {}
  /-- An operation. -/
  | perform {r : Registry} (h : Reached r) (o : Operation) :
      Reached (r.perform o)
  /-- A template. -/
  | addTemplate {r : Registry} (h : Reached r) (t : Template) :
      Reached (r.addTemplate t)

/-- What stays when no record is added. -/
structure SameIds (r r' : Registry) : Prop where
  /-- There are records for the same identifiers. -/
  contains : ∀ id, r'.records.contains id = r.records.contains id
  /-- Their order stays. -/
  order : r'.order = r.order
  /-- The number to try next stays. -/
  nextId : r'.nextId = r.nextId

/-- Where nothing happens identifiers stay. -/
theorem SameIds.refl (r : Registry) : SameIds r r :=
  ⟨fun _ => rfl, rfl, rfl⟩

/-- A change of a record adds none. -/
theorem sameIds_update (r : Registry) (id : String) (f : Record → Record) :
    SameIds r (r.update id f).2 where
  contains := r.contains_update id f
  order := update_order _ _ _
  nextId := update_nextId _ _ _

/-- A new dynamic input adds no record. -/
theorem sameIds_addDynamicInput (r : Registry) (id name type : String) :
    SameIds r (r.addDynamicInput id name type).2 := by
  unfold addDynamicInput
  split
  · exact .refl r
  · split
    · exact .refl r
    · exact r.sameIds_update id _

/-- Taking a dynamic input away adds no record. -/
theorem sameIds_removeDynamicInput (r : Registry) (id name : String) :
    SameIds r (r.removeDynamicInput id name).2 := by
  unfold removeDynamicInput
  split
  · exact .refl r
  · exact r.sameIds_update id _

/-- Saving code adds no record. -/
theorem sameIds_saveCode (r : Registry) (id code language : String)
    (now : Timestamp) : SameIds r (r.saveCode id code language now).2 := by
  unfold saveCode
  split
  · exact ⟨fun _ => rfl, rfl, rfl⟩
  · exact .refl r

/-- A record that is removed is still there, marked. -/
theorem sameIds_remove (r : Registry) (v : Handle) :
    SameIds r (r.remove v).2 := by
  cases hv : r.index.get? v with
  | none =>
      rw [remove_of_none hv]
      exact .refl r
  | some id =>
      rw [remove_of_some hv]
      exact ⟨fun j => Table.contains_modify _ _ _ _, rfl, rfl⟩

/-- A link adds no record. -/
theorem sameIds_link (r : Registry) (v : Handle) (id : String) :
    SameIds r (r.link v id).2 :=
  ⟨fun j => by rw [link_records], link_order r v id, link_nextId r v id⟩

/-- Links, one after the other, add no record. -/
theorem sameIds_foldl_link (l : List (String × Handle)) (r : Registry) :
    SameIds r (l.foldl (fun r e => (r.link e.2 e.1).2) r) := by
  induction l generalizing r with
  | nil => exact .refl r
  | cons e rest ih =>
      have hlink := r.sameIds_link e.2 e.1
      have hrest := ih (r.link e.2 e.1).2
      exact ⟨fun j => (hrest.contains j).trans (hlink.contains j),
        hrest.order.trans hlink.order, hrest.nextId.trans hlink.nextId⟩

/-- An operation adds no record, adds one for a node that has none, or loads
    other records. -/
theorem perform_cases (r : Registry) (o : Operation) :
    SameIds r (r.perform o)
      ∨ (∃ v nodeType, r.recordOf? v = none
        ∧ r.perform o = (r.add v nodeType).2)
      ∨ ∃ records code, SameIds (r.load records code) (r.perform o) := by
  cases o with
  | add v nodeType =>
      cases hv : r.recordOf? v with
      | none => exact Or.inr (Or.inl ⟨v, nodeType, hv, rfl⟩)
      -- a node that has a record gets no other one
      | some x =>
          refine Or.inl ?_
          show SameIds r (r.add v nodeType).2
          unfold Registry.add
          rw [hv]
          exact .refl r
  | link v id => exact Or.inl (r.sameIds_link v id)
  | remove v => exact Or.inl (r.sameIds_remove v)
  | load records code => exact Or.inr (Or.inr ⟨records, code, .refl _⟩)
  | clear => exact Or.inr (Or.inr ⟨[], Table.empty, .refl _⟩)
  | updateProperties id more => exact Or.inl (r.sameIds_update id _)
  | setStructure id title ins outs => exact Or.inl (r.sameIds_update id _)
  | addDynamicInput id name type =>
      exact Or.inl (r.sameIds_addDynamicInput id name type)
  | removeDynamicInput id name =>
      exact Or.inl (r.sameIds_removeDynamicInput id name)
  | saveCode id code language now =>
      exact Or.inl (r.sameIds_saveCode id code language now)
  -- what can be read is taken in like records that are loaded, and then linked
  | configure s =>
      rcases r.configure_cases s with ⟨e, -, heq⟩ | ⟨g, -, heq⟩
      · refine Or.inl ?_
        rw [heq]
        exact .refl r
      · refine Or.inr (Or.inr ⟨s.nodes, s.code, ?_⟩)
        rw [heq]
        exact sameIds_foldl_link _ _

/-! ## What a run keeps -/

/-- By induction over the operations: the tables of a registry are tied. -/
theorem Reached.tied (h : Reached r) : r.Tied := by
  induction h with
  | empty => exact tied_clear {}
  | perform _ o ih => exact ih.perform o
  | addTemplate _ t ih => exact ⟨ih.named, ih.recorded, ih.linked⟩

/-- The number to try next is below the limit after an import, whatever
    records it brings. -/
theorem nextId_load_lt (r : Registry) (records : List Record)
    (code : Table String SavedCode) : (r.load records code).nextId < idLimit :=
  (foldl_loadRecord_frame records r.clear).2.2.2 (by simp [clear, idLimit])

/-- By induction over the operations: the number to try next is below the
    limit. -/
theorem Reached.nextId_lt (h : Reached r) : r.nextId < idLimit := by
  induction h with
  | empty => decide
  | addTemplate _ t ih => exact ih
  | @perform r _ o ih =>
      rcases r.perform_cases o with hs | ⟨v, nodeType, hv, heq⟩ | ⟨l, code, hs⟩
      · rw [hs.nextId]
        exact ih
      · rw [heq, add_of_none hv, link_nextId]
        exact freshId_snd_lt _ _ _
      · rw [hs.nextId]
        exact nextId_load_lt r l code

/-- Whether the list names exactly the records, each of them once. -/
def InOrder (r : Registry) : Prop :=
  r.order.Nodup ∧ ∀ id, id ∈ r.order ↔ r.records.contains id = true

/-- The order lists exactly the records as long as none is added. -/
theorem SameIds.inOrder (hs : SameIds r r') (h : r.InOrder) : r'.InOrder := by
  refine ⟨hs.order ▸ h.1, fun id => ?_⟩
  rw [hs.order, hs.contains]
  exact h.2 id

/-- After an import the order lists exactly the records that it has
    brought. -/
theorem inOrder_load (r : Registry) (records : List Record)
    (code : Table String SavedCode) : (r.load records code).InOrder := by
  refine ⟨?_, fun id => ?_⟩
  · rw [order_load]
    exact firsts_ids_nodup records
  · rw [order_load, Table.contains, get?_load, List.mem_map]
    constructor
    · rintro ⟨x, hx, rfl⟩
      rw [mem_firsts_iff.mp hx]
      rfl
    · intro hsome
      obtain ⟨x, hx⟩ := Option.isSome_iff_exists.mp hsome
      have hid := first?_id hx
      exact ⟨x, mem_firsts_iff.mpr (hid ▸ hx), hid⟩

/-- A new record takes the place of none. -/
theorem InOrder.add (h : r.InOrder) (hlt : r.nextId < idLimit)
    (room : r.records.size + 1 < idLimit) (hv : r.recordOf? v = none) :
    (r.add v nodeType).2.InOrder := by
  have hfresh : r.nextIdentifier ∉ r.order := by
    rw [h.2, Bool.not_eq_true, Table.contains_eq_false_iff]
    exact get?_freshId hlt room
  rw [add_of_none hv]
  refine (sameIds_link _ v r.nextIdentifier).inOrder ⟨?_, fun id => ?_⟩
  · show (r.order ++ [r.nextIdentifier]).Nodup
    rw [List.nodup_append]
    refine ⟨h.1, List.pairwise_singleton _ _, fun a ha b hb hab => ?_⟩
    rw [List.mem_singleton.mp hb] at hab
    exact hfresh (hab ▸ ha)
  · show id ∈ r.order ++ [r.nextIdentifier]
      ↔ (r.records.insert _ _).contains id = true
    rw [List.mem_append, List.mem_singleton, h.2 id, Table.contains_insert,
      Bool.or_eq_true, decide_eq_true_eq, or_comm]

/-- A record that is there is still there once one is added. -/
theorem contains_add (hv : r.recordOf? v = none)
    (hid : r.records.contains id = true) :
    (r.add v nodeType).2.records.contains id = true := by
  rw [add_of_none hv, link_records]
  show (r.records.insert _ _).contains id = true
  rw [Table.contains_insert, hid, Bool.or_true]

/-- Records are never dropped one by one, so while there are fewer of them
    than numbers, there have been fewer since the last load. -/
theorem Reached.inOrder (h : Reached r) (room : r.records.size + 1 < idLimit) :
    r.InOrder := by
  induction h with
  | empty => exact ⟨List.nodup_nil, by simp [Table.contains]⟩
  | addTemplate _ t ih => exact ih room
  | @perform r h o ih =>
      rcases r.perform_cases o with hs | ⟨v, nodeType, hv, heq⟩ | ⟨l, code, hs⟩
      · have hle : r.records.size ≤ (r.perform o).records.size :=
          Table.size_le_of_contains (fun id hid => (hs.contains id).trans hid)
        exact hs.inOrder (ih (by omega))
      · have hle : r.records.size ≤ (r.perform o).records.size :=
          Table.size_le_of_contains (fun id hid => by
            rw [heq]
            exact contains_add hv hid)
        have hroom : r.records.size + 1 < idLimit := by omega
        rw [heq]
        exact (ih hroom).add h.nextId_lt hroom hv
      · exact hs.inOrder (inOrder_load r l code)

/-- As long as numbers are left, exactly the records are listed. -/
theorem Reached.listed (h : Reached r) (room : r.records.size + 1 < idLimit) :
    r.Listed :=
  ⟨h.tied.named, (h.inOrder room).1, (h.inOrder room).2⟩

/-! ## Counting records -/

/-- No record is there twice. -/
theorem Listed.values_nodup (h : r.Listed) : r.records.values.Nodup := by
  unfold Table.values
  rw [List.Nodup, List.pairwise_map]
  refine r.records.ascending.imp_of_mem (fun {a b} ha hb hab heq => ?_)
  have hid : a.1 = b.1 := by
    rw [← h.named a.1 a.2 ((Table.mem_entries_iff _ _ _).mp ha),
      ← h.named b.1 b.2 ((Table.mem_entries_iff _ _ _).mp hb), heq]
  exact Std.lt_irrefl (hid ▸ hab)

/-- A record is there exactly if it is stored under its identifier. -/
theorem Listed.mem_values_iff (h : r.Listed) :
    x ∈ r.records.values ↔ r.records.get? x.id = some x := by
  unfold Table.values
  rw [List.mem_map]
  constructor
  · rintro ⟨e, he, rfl⟩
    have hget := (Table.mem_entries_iff _ _ _).mp he
    rw [h.named e.1 e.2 hget]
    exact hget
  · exact fun hx => ⟨(x.id, x), (Table.mem_entries_iff _ _ _).mpr hx, rfl⟩

/-- No record is exported twice. -/
theorem Listed.live_nodup (h : r.Listed) : r.live.Nodup :=
  List.Nodup.of_map Record.id (h.distinct.sublist h.live_ids_sublist)

/-- As many records are counted as are exported. -/
theorem Listed.liveCount_eq (h : r.Listed) : r.liveCount = r.live.length := by
  refine List.Perm.length_eq ((List.perm_ext_iff_of_nodup
    (h.values_nodup.filter _) h.live_nodup).mpr (fun x => ?_))
  rw [List.mem_filter, h.mem_values_iff, h.mem_live_iff,
    Bool.not_eq_true']

/-! ## The identifiers of a run -/

/-- What the identifiers of a registry can be relied on for. -/
structure Accounted (r : Registry) : Prop where
  /-- The search for the next one ends. -/
  ends : ∃ found, Finds r.records r.nextId found
  /-- A node without a record gets one under the identifier that the search
      comes to, which no record has; all others stay as they are. -/
  fresh : ∀ v nodeType, r.recordOf? v = none →
    (∀ found, Finds r.records r.nextId found →
      (r.add v nodeType).1.id = found.1
        ∧ (r.add v nodeType).2.nextId = found.2)
    ∧ ∀ id y, r.records.get? id = some y →
      y.id ≠ (r.add v nodeType).1.id
        ∧ (r.add v nodeType).2.records.get? id = some y
  /-- The list names every record, and no identifier twice. -/
  listed : r.order.Nodup
    ∧ ∀ id, id ∈ r.order ↔ ∃ x, r.records.get? id = some x ∧ x.id = id
  /-- The records that are not removed are exported, in the order of the
      list, each once. -/
  exported : (r.live.map Record.id).Sublist r.order ∧ r.live.Nodup
    ∧ ∀ x, x ∈ r.live ↔ r.records.get? x.id = some x ∧ x.removed = false
  /-- They are counted. -/
  counted : r.liveCount = r.live.length

/-- Whatever has been done, identifiers are not given twice while there are
    fewer records than numbers. -/
theorem Reached.accounted_for (h : Reached r)
    (room : r.records.size + 1 < idLimit) : r.Accounted := by
  -- the search ends at an identifier that no record has
  have hfree : r.records.get? r.nextIdentifier = none :=
    get?_freshId h.nextId_lt room
  have hfinds : Finds r.records r.nextId
      (freshId r.records r.records.size r.nextId) :=
    finds_freshId _ (Table.contains_eq_false_iff.mpr hfree)
  have hlisted := h.listed room
  constructor
  · exact ⟨_, hfinds⟩
  · intro v nodeType hv
    rw [add_of_none hv]
    refine ⟨fun found hfound => ?_, fun id y hy => ?_⟩
    · rw [hfound.unique hfinds, newRecord_id, link_nextId]
      exact ⟨rfl, rfl⟩
    · -- another record has another identifier
      have hne : id ≠ r.nextIdentifier := by
        rintro rfl
        rw [hfree] at hy
        cases hy
      rw [newRecord_id, hlisted.named id y hy, link_records]
      refine ⟨hne, ?_⟩
      show (r.records.insert _ _).get? id = some y
      rw [Table.get?_insert, if_neg hne, hy]
  · refine ⟨hlisted.distinct, fun id => ?_⟩
    rw [hlisted.listed, Table.contains_iff]
    exact exists_congr (fun x =>
      ⟨fun hx => ⟨hx, hlisted.named id x hx⟩, And.left⟩)
  · exact ⟨hlisted.live_ids_sublist, hlisted.live_nodup,
      fun x => hlisted.mem_live_iff⟩
  · exact hlisted.liveCount_eq

/-- Five records are loaded, two of them under one identifier and one under
    the greatest number.  The search starts there, goes on from one and finds
    two. -/
theorem accounted_for_wrapped :
    let x (id : String) : Record := { id, nodeType := "t" }
    let l := [x "18446744073709551615", x "007", x "a", x "1", x "1"]
    let r := Registry.perform {} (.load l Table.empty)
    Reached r ∧ r.records.size + 1 < idLimit
      ∧ r.nextId = 18446744073709551615
      ∧ r.Accounted
      ∧ (r.add 5 "t").1.id = "2"
      ∧ (r.add 5 "t").2.order = r.order ++ ["2"] := by
  intro x l r
  have hr : Reached r := Reached.empty.perform _
  have hroom : r.records.size + 1 < idLimit := by decide +kernel
  exact ⟨hr, hroom, by decide +kernel, hr.accounted_for hroom,
    by decide +kernel, by decide +kernel⟩

end Registry
end NodeFlow
