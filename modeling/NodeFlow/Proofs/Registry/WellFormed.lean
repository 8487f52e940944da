import NodeFlow.Proofs.Registry.Identifiers
import NodeFlow.Proofs.Registry.Operations

/-! # Well-formed registries

    In a well-formed registry every record is stored under its own identifier
    and listed once, the two tables of links are inverse to each other, and a
    record has a node exactly as long as it is not removed.  The inputs of a
    record are told apart by their names. -/

namespace NodeFlow.Registry

/-- What every operation on a registry can rely on. -/
structure WellFormed (r : Registry) : Prop where
  /-- A record is stored under its identifier. -/
  named : ∀ id x, r.records.get? id = some x → x.id = id
  /-- No identifier is listed twice. -/
  distinct : r.order.Nodup
  /-- Exactly the records are listed. -/
  listed : ∀ id, id ∈ r.order ↔ r.records.contains id = true
  /-- A node has a record exactly where the record has the node. -/
  inverse : ∀ v id, r.index.get? v = some id ↔ r.links.get? id = some v
  /-- Exactly the records that are not removed have a node. -/
  linked : ∀ id, (∃ v, r.links.get? id = some v) ↔
    ∃ x, r.records.get? id = some x ∧ x.removed = false
  /-- Inputs are told apart by their names. -/
  inputs : ∀ id x, r.records.get? id = some x → x.Distinct
  /-- The next number is one. -/
  nextId : r.nextId < idLimit

/-- A registry that holds nothing but templates. -/
theorem wellFormed_clear (r : Registry) : r.clear.WellFormed where
  named := by simp [clear]
  distinct := List.nodup_nil
  listed := by simp [clear, Table.contains]
  inverse := by simp [clear]
  linked := by simp [clear]
  inputs := by simp [clear]
  nextId := by simp [clear, idLimit]

variable {r : Registry} {v : Handle} {id : String} {x : Record}

/-! ## Consequences -/

/-- A node is indexed under a record that exists and is not removed. -/
theorem WellFormed.contains_of_index (h : r.WellFormed)
    (hv : r.index.get? v = some id) :
    ∃ x, r.records.get? id = some x ∧ x.removed = false :=
  (h.linked id).mp ⟨v, (h.inverse v id).mp hv⟩

/-- The record of a node is not removed and has that node. -/
theorem WellFormed.recordOf?_eq_some_iff (h : r.WellFormed) :
    r.recordOf? v = some x ↔
      r.records.get? x.id = some x ∧ r.links.get? x.id = some v := by
  rw [Registry.recordOf?_eq_some_iff]
  constructor
  · rintro ⟨id, hv, hx⟩
    rw [h.named id x hx]
    exact ⟨hx, (h.inverse v id).mp hv⟩
  · rintro ⟨hx, hl⟩
    exact ⟨x.id, (h.inverse v x.id).mpr hl, hx⟩

/-- A node has no record exactly if it is not indexed. -/
theorem WellFormed.recordOf?_eq_none_iff (h : r.WellFormed) :
    r.recordOf? v = none ↔ r.index.get? v = none := by
  constructor
  · intro hnone
    cases hv : r.index.get? v with
    | none => rfl
    | some id =>
        obtain ⟨x, hx, -⟩ := h.contains_of_index hv
        have hsome := Registry.recordOf?_eq_some_iff.mpr ⟨id, hv, hx⟩
        rw [hnone] at hsome
        cases hsome
  · intro hnone
    simp [recordOf?, hnone]

/-- The record of a node is not removed. -/
theorem WellFormed.removed_of_recordOf? (h : r.WellFormed)
    (hx : r.recordOf? v = some x) : x.removed = false := by
  obtain ⟨hrec, hl⟩ := h.recordOf?_eq_some_iff.mp hx
  obtain ⟨y, hy, hrem⟩ := (h.linked x.id).mp ⟨v, hl⟩
  rw [hrec] at hy
  cases hy
  exact hrem

/-- Two nodes do not share a record. -/
theorem WellFormed.recordOf?_inj (h : r.WellFormed) {u : Handle} {y : Record}
    (hx : r.recordOf? v = some x) (hy : r.recordOf? u = some y)
    (hid : x.id = y.id) : v = u := by
  obtain ⟨-, hv⟩ := h.recordOf?_eq_some_iff.mp hx
  obtain ⟨-, hu⟩ := h.recordOf?_eq_some_iff.mp hy
  rw [hid, hu] at hv
  exact (Option.some.inj hv).symm

/-- There are no more records than identifiers in the list. -/
theorem WellFormed.size_le (h : r.WellFormed) :
    r.records.size ≤ r.order.length := by
  have hle := r.records.keys_nodup.length_le_of_subset
    (fun id hid => (h.listed id).mpr
      (Table.contains_iff.mpr (Table.mem_keys_iff.mp hid)))
  rwa [Table.keys, List.length_map] at hle

/-! ## Changing records -/

/-- What stays when records change. -/
structure Revised (ok : Port → Prop) (r r' : Registry) : Prop where
  /-- A record changes into one like it. -/
  records : ∀ id x, r.records.get? id = some x →
    ∃ y, r'.records.get? id = some y ∧ x.Revised ok y
  /-- There are no new ones. -/
  missing : ∀ id, r.records.get? id = none → r'.records.get? id = none
  /-- Their order stays. -/
  order : r'.order = r.order
  /-- Links stay. -/
  index : r'.index = r.index
  /-- Links stay. -/
  links : r'.links = r.links
  /-- Templates stay. -/
  templates : r'.templates = r.templates
  /-- The next number stays. -/
  nextId : r'.nextId = r.nextId

variable {ok : Port → Prop} {r' : Registry}

/-- Where nothing happens nothing changes. -/
theorem Revised.refl (r : Registry) : Revised ok r r :=
  ⟨fun _ x hx => ⟨x, hx, .refl x⟩, fun _ h => h, rfl, rfl, rfl, rfl, rfl⟩

/-- A record that is there was there before. -/
theorem Revised.of_get? (hr : Revised ok r r') {y : Record}
    (hy : r'.records.get? id = some y) :
    ∃ x, r.records.get? id = some x ∧ x.Revised ok y := by
  cases hx : r.records.get? id with
  | none =>
      rw [hr.missing id hx] at hy
      cases hy
  | some x =>
      obtain ⟨z, hz, hrev⟩ := hr.records id x hx
      rw [hz] at hy
      cases hy
      exact ⟨x, rfl, hrev⟩

/-- Records are revised if the one that changes is. -/
theorem Revised.update (f : Record → Record)
    (hf : ∀ x, r.records.get? id = some x → x.Revised ok (f x)) :
    Revised ok r (r.update id f).2 where
  records j x hx := by
    rw [get?_update]
    split
    · rename_i hj
      rw [hj] at hx
      exact ⟨f x, by rw [hx]; rfl, hf x hx⟩
    · exact ⟨x, hx, .refl x⟩
  missing j hj := by
    rw [get?_update]
    split
    · rename_i hid
      rw [← hid, hj]
      rfl
    · exact hj
  order := update_order _ _ _
  index := update_index _ _ _
  links := update_links _ _ _
  templates := update_templates _ _ _
  nextId := update_nextId _ _ _

/-- A registry stays well-formed while records are revised. -/
theorem WellFormed.revised (h : r.WellFormed) (hr : Revised ok r r') :
    r'.WellFormed where
  named id y hy := by
    obtain ⟨x, hx, hrev⟩ := hr.of_get? hy
    rw [hrev.id, h.named id x hx]
  distinct := hr.order ▸ h.distinct
  listed id := by
    rw [hr.order, h.listed id, Table.contains_iff, Table.contains_iff]
    -- there are records for the same identifiers
    constructor
    · rintro ⟨x, hx⟩
      obtain ⟨y, hy, -⟩ := hr.records id x hx
      exact ⟨y, hy⟩
    · rintro ⟨y, hy⟩
      obtain ⟨x, hx, -⟩ := hr.of_get? hy
      exact ⟨x, hx⟩
  inverse := by
    rw [hr.index, hr.links]
    exact h.inverse
  linked id := by
    rw [hr.links, h.linked id]
    -- and the same ones are removed
    constructor
    · rintro ⟨x, hx, hrem⟩
      obtain ⟨y, hy, hrev⟩ := hr.records id x hx
      exact ⟨y, hy, hrev.removed.trans hrem⟩
    · rintro ⟨y, hy, hrem⟩
      obtain ⟨x, hx, hrev⟩ := hr.of_get? hy
      exact ⟨x, hx, hrev.removed.symm.trans hrem⟩
  inputs id y hy := by
    obtain ⟨x, hx, hrev⟩ := hr.of_get? hy
    exact hrev.distinct (h.inputs id x hx)
  nextId := hr.nextId ▸ h.nextId

/-- Nodes keep their records, changed or not. -/
theorem Revised.recordOf?_isSome (hr : Revised ok r r') (v : Handle) :
    (r'.recordOf? v).isSome = (r.recordOf? v).isSome := by
  unfold recordOf? record?
  rw [hr.index]
  cases r.index.get? v with
  | none => rfl
  | some id =>
      show (r'.records.get? id).isSome = (r.records.get? id).isSome
      cases hx : r.records.get? id with
      | none => rw [hr.missing id hx]
      | some x =>
          obtain ⟨y, hy, -⟩ := hr.records id x hx
          rw [hy]
          rfl

/-- The record of a node after a change of one record. -/
theorem recordOf?_update (r : Registry) (id : String) (f : Record → Record)
    (v : Handle) :
    (r.update id f).2.recordOf? v
      = (r.recordOf? v).map
          (fun x => if r.index.get? v = some id then f x else x) := by
  unfold recordOf? record?
  rw [update_index]
  cases hv : r.index.get? v with
  | none => rfl
  | some j =>
      show (r.update id f).2.records.get? j = _
      rw [get?_update]
      by_cases hj : j = id
      · subst hj
        simp
      · have hne : some j ≠ some id := fun heq => hj (Option.some.inj heq)
        simp [hj]

/-! ## Removing a record -/

/-- Without a record there is nothing to remove. -/
theorem remove_of_none (hv : r.index.get? v = none) :
    r.remove v = (false, r) := by
  unfold remove
  rw [hv]

/-- The record of a node is unlinked on both sides and marked. -/
theorem remove_of_some (hv : r.index.get? v = some id) :
    r.remove v
      = (true,
          { r with
            index := r.index.erase v
            links := r.links.erase id
            records :=
              r.records.modify id (fun x => { x with removed := true }) }) := by
  unfold remove
  rw [hv]

/-- A registry stays well-formed when a record is removed. -/
theorem WellFormed.remove (h : r.WellFormed) (v : Handle) :
    (r.remove v).2.WellFormed := by
  cases hv : r.index.get? v with
  | none =>
      rw [remove_of_none hv]
      exact h
  | some id =>
      rw [remove_of_some hv]
      have hl := (h.inverse v id).mp hv
      constructor
      · intro j y hy
        rw [Table.get?_modify] at hy
        split at hy
        · rename_i hj
          obtain ⟨x, hx, rfl⟩ := Option.map_eq_some_iff.mp hy
          exact (h.named id x hx).trans hj.symm
        · exact h.named j y hy
      · exact h.distinct
      · intro j
        rw [h.listed j, Table.contains_modify]
      · intro u j
        rw [Table.get?_erase, Table.get?_erase]
        by_cases hu : u = v
        · -- the node of another record is another node
          have hj : j = id ∨ r.links.get? j ≠ some v := by
            by_cases hj : j = id
            · exact Or.inl hj
            · refine Or.inr (fun hlj => hj ?_)
              have hvj := (h.inverse v j).mpr hlj
              rw [hv] at hvj
              exact (Option.some.inj hvj).symm
          rcases hj with hj | hj
          · simp [hu, hj]
          · simp [hu, hj]
        · -- and the record of another node is another record
          by_cases hj : j = id
          · have hne : r.index.get? u ≠ some id := fun hui => hu (by
              have := (h.inverse u id).mp hui
              rw [hl] at this
              exact (Option.some.inj this).symm)
            simp [hu, hj, hne]
          · simpa [hu, hj] using h.inverse u j
      · intro j
        rw [Table.get?_erase, Table.get?_modify]
        by_cases hj : j = id
        · simp [hj]
        · simpa [hj] using h.linked j
      · intro j y hy
        rw [Table.get?_modify] at hy
        split at hy
        · obtain ⟨x, hx, rfl⟩ := Option.map_eq_some_iff.mp hy
          exact ⟨(h.inputs id x hx).dynamic, (h.inputs id x hx).apart⟩
        · exact h.inputs j y hy
      · exact h.nextId

/-- Removing a node takes its record away and no other. -/
theorem recordOf?_remove (h : r.WellFormed) (v u : Handle) :
    (r.remove v).2.recordOf? u = if u = v then none else r.recordOf? u := by
  cases hv : r.index.get? v with
  | none =>
      rw [remove_of_none hv]
      split
      · rename_i hu
        rw [hu]
        exact h.recordOf?_eq_none_iff.mpr hv
      · rfl
  | some id =>
      rw [remove_of_some hv]
      unfold recordOf? record?
      show ((r.index.erase v).get? u).bind _ = _
      rw [Table.get?_erase]
      split
      · rfl
      · rename_i hu
        cases hj : r.index.get? u with
        | none => simp
        | some j =>
            -- the record that is removed was that of one node only
            have hne : j ≠ id := by
              rintro rfl
              have hu' := (h.inverse u j).mp hj
              rw [(h.inverse v j).mp hv] at hu'
              exact hu (Option.some.inj hu').symm
            simp [Table.get?_modify, hne]

/-! ## Adding a record -/

/-- The identifier that the next record gets. -/
def nextIdentifier (r : Registry) : String :=
  (freshId r.records r.records.size r.nextId).1

/-- As long as numbers are left, the search for an identifier ends at one that
    no record has. -/
theorem WellFormed.get?_nextIdentifier (h : r.WellFormed)
    (room : r.order.length + 1 < idLimit) :
    r.records.get? r.nextIdentifier = none :=
  get?_freshId h.nextId
    (Nat.lt_of_le_of_lt (Nat.succ_le_succ h.size_le) room)

@[simp] theorem newRecord_id (r : Registry) (id nodeType : String) :
    (r.newRecord id nodeType).id = id := by
  unfold newRecord
  split <;> rfl

@[simp] theorem newRecord_removed (r : Registry) (id nodeType : String) :
    (r.newRecord id nodeType).removed = false := by
  unfold newRecord
  split <;> rfl

/-- A new record has no dynamic inputs, so their names are apart. -/
theorem newRecord_distinct (r : Registry) (id nodeType : String) :
    (r.newRecord id nodeType).Distinct := by
  unfold newRecord
  split <;> exact ⟨List.nodup_nil, by simp⟩

/-- The registry with a new record that has no node yet. -/
def withNew (r : Registry) (nodeType : String) : Registry :=
  { r with
    nextId := (freshId r.records r.records.size r.nextId).2
    records :=
      r.records.insert r.nextIdentifier
        (r.newRecord r.nextIdentifier nodeType)
    order := r.order ++ [r.nextIdentifier] }

/-- A node without a record gets a new one. -/
theorem add_of_none (hv : r.recordOf? v = none) (nodeType : String) :
    r.add v nodeType
      = (r.newRecord r.nextIdentifier nodeType,
          ((r.withNew nodeType).link v r.nextIdentifier).2) := by
  unfold add
  rw [hv]
  rfl

/-- A node without a record gets a new one and is linked to it. -/
theorem add_eq (h : r.WellFormed) (hv : r.index.get? v = none)
    (nodeType : String) :
    r.add v nodeType
      = (r.newRecord r.nextIdentifier nodeType,
          ((r.withNew nodeType).link v r.nextIdentifier).2) :=
  add_of_none (h.recordOf?_eq_none_iff.mpr hv) nodeType

/-- The new record is one that a node can be linked to. -/
theorem contains_withNew (r : Registry) (nodeType : String) :
    (r.withNew nodeType).records.contains r.nextIdentifier = true := by
  simp [withNew, Table.contains_insert]

/-- What is looked up once a record has been added. -/
structure Added (r r' : Registry) (v : Handle) (x : Record) : Prop where
  /-- The record, and those from before. -/
  records : ∀ j, r'.records.get? j
    = if j = x.id then some x else r.records.get? j
  /-- Its node, and those from before. -/
  links : ∀ j, r'.links.get? j = if j = x.id then some v else r.links.get? j
  /-- The same from the nodes. -/
  index : ∀ u, r'.index.get? u
    = if u = v then some x.id else r.index.get? u

/-- What a new record changes: one more under a new identifier, and the links
    of one node. -/
theorem WellFormed.added (h : r.WellFormed) (hv : r.index.get? v = none)
    (room : r.order.length + 1 < idLimit) (nodeType : String) :
    Added r (r.add v nodeType).2 v
      (r.newRecord r.nextIdentifier nodeType) := by
  have hfree := h.get?_nextIdentifier room
  -- what has no record has no link
  have hunlinked : r.links.get? r.nextIdentifier = none := by
    cases hl : r.links.get? r.nextIdentifier with
    | none => rfl
    | some u =>
        obtain ⟨x, hx, -⟩ := (h.linked _).mp ⟨u, hl⟩
        rw [hfree] at hx
        cases hx
  rw [add_eq h hv]
  refine ⟨fun j => ?_, fun j => ?_, fun u => ?_⟩
  · rw [link_records, newRecord_id]
    exact Table.get?_insert _ _ _ _
  · rw [get?_link_links (contains_withNew r nodeType), newRecord_id]
    rfl
  · rw [get?_link_index (contains_withNew r nodeType) hunlinked, newRecord_id]
    rfl

/-- A registry stays well-formed when a record is added, as long as numbers
    are left. -/
theorem WellFormed.add (h : r.WellFormed) (hv : r.index.get? v = none)
    (room : r.order.length + 1 < idLimit) (nodeType : String) :
    (r.add v nodeType).2.WellFormed := by
  have hfree := h.get?_nextIdentifier room
  have hadd := h.added hv room nodeType
  have horder : (r.add v nodeType).2.order
      = r.order ++ [r.nextIdentifier] := by
    rw [add_eq h hv, link_order]
    rfl
  have hnext : (r.add v nodeType).2.nextId
      = (freshId r.records r.records.size r.nextId).2 := by
    rw [add_eq h hv, link_nextId]
    rfl
  -- from here on only what is looked up matters
  generalize hr : (r.add v nodeType).2 = r' at hadd horder hnext
  obtain ⟨hrecords, hlinks, hindex⟩ := hadd
  simp only [newRecord_id] at hrecords hlinks hindex
  have hunlisted : r.nextIdentifier ∉ r.order := by
    rw [h.listed, Bool.not_eq_true, Table.contains_eq_false_iff]
    exact hfree
  constructor
  · intro j y hy
    rw [hrecords] at hy
    split at hy
    · rename_i hj
      cases hy
      rw [newRecord_id, hj]
    · exact h.named j y hy
  · rw [horder, List.nodup_append]
    refine ⟨h.distinct, List.pairwise_singleton _ _, ?_⟩
    intro a ha b hb hab
    rw [List.mem_singleton.mp hb] at hab
    exact hunlisted (hab ▸ ha)
  · intro j
    rw [horder, List.mem_append, List.mem_singleton, h.listed j,
      Table.contains, Table.contains, hrecords]
    split
    · rename_i hj
      simp [hj]
    · rename_i hj
      simp [hj]
  · intro u j
    rw [hindex, hlinks]
    have hnone : ∀ w, r.links.get? r.nextIdentifier ≠ some w := by
      intro w hw
      obtain ⟨x, hx, -⟩ := (h.linked _).mp ⟨w, hw⟩
      rw [hfree] at hx
      cases hx
    by_cases hu : u = v
    · by_cases hj : j = r.nextIdentifier
      · simp [hu, hj]
      · have hne : r.links.get? j ≠ some v := by
          rw [ne_eq, ← h.inverse, hv]
          intro heq
          cases heq
        simp [hu, hj, hne, Ne.symm hj]
    · by_cases hj : j = r.nextIdentifier
      · have hne : r.index.get? u ≠ some r.nextIdentifier := by
          rw [ne_eq, h.inverse]
          exact hnone u
        simp [hu, hj, hne, Ne.symm hu]
      · simpa [hu, hj] using h.inverse u j
  · intro j
    rw [hlinks, hrecords]
    by_cases hj : j = r.nextIdentifier
    · simp [hj]
    · simpa [hj] using h.linked j
  · intro j y hy
    rw [hrecords] at hy
    split at hy
    · cases hy
      exact newRecord_distinct _ _ _
    · exact h.inputs j y hy
  · rw [hnext]
    exact freshId_snd_lt _ _ _

/-- The new record is that of its node, and other nodes keep theirs. -/
theorem WellFormed.recordOf?_add (h : r.WellFormed)
    (hv : r.index.get? v = none) (room : r.order.length + 1 < idLimit)
    (nodeType : String) (u : Handle) :
    (r.add v nodeType).2.recordOf? u
      = if u = v then some (r.newRecord r.nextIdentifier nodeType)
        else r.recordOf? u := by
  have hfree := h.get?_nextIdentifier room
  obtain ⟨hrecords, -, hindex⟩ := h.added hv room nodeType
  simp only [newRecord_id] at hrecords hindex
  unfold recordOf? record?
  rw [hindex]
  split
  · simp [hrecords]
  · cases hu : r.index.get? u with
    | none => rfl
    | some j =>
        have hne : j ≠ r.nextIdentifier := by
          rintro rfl
          obtain ⟨x, hx, -⟩ := h.contains_of_index hu
          rw [hfree] at hx
          cases hx
        simp [hrecords, hne]

end NodeFlow.Registry
