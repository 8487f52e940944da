import NodeFlow.Proofs.Record
import NodeFlow.Proofs.Table

/-! # What the operations on a registry do

    For every operation: what it answers, what it does to the records and
    what it leaves alone.  A change of one record is an `update`, so most
    operations only say which one they are. -/

namespace NodeFlow.Registry

variable {r : Registry} {v : Handle} {id : String} {x : Record}

/-- The record of a node is the one with the identifier that the node is
    indexed under. -/
theorem recordOf?_eq_some_iff :
    r.recordOf? v = some x ↔
      ∃ id, r.index.get? v = some id ∧ r.records.get? id = some x := by
  unfold recordOf? record?
  cases r.index.get? v <;> simp

/-! ## Links -/

@[simp] theorem link_fst (r : Registry) (v : Handle) (id : String) :
    (r.link v id).1 = r.records.contains id := by
  unfold link
  split <;> simp_all

@[simp] theorem link_records (r : Registry) (v : Handle) (id : String) :
    (r.link v id).2.records = r.records := by
  unfold link
  split <;> rfl

@[simp] theorem link_order (r : Registry) (v : Handle) (id : String) :
    (r.link v id).2.order = r.order := by
  unfold link
  split <;> rfl

@[simp] theorem link_templates (r : Registry) (v : Handle) (id : String) :
    (r.link v id).2.templates = r.templates := by
  unfold link
  split <;> rfl

@[simp] theorem link_code (r : Registry) (v : Handle) (id : String) :
    (r.link v id).2.code = r.code := by
  unfold link
  split <;> rfl

@[simp] theorem link_nextId (r : Registry) (v : Handle) (id : String) :
    (r.link v id).2.nextId = r.nextId := by
  unfold link
  split <;> rfl

/-- A link that is made is that of its record, and other records keep
    theirs. -/
theorem get?_link_links (h : r.records.contains id = true) (j : String) :
    (r.link v id).2.links.get? j
      = if j = id then some v else r.links.get? j := by
  unfold link
  rw [if_pos h]
  exact Table.get?_insert _ _ _ _

/-- The node that the record was linked to before is not found any more. -/
theorem get?_link_index_of_contains (h : r.records.contains id = true)
    (u : Handle) :
    (r.link v id).2.index.get? u
      = if u = v then some id
        else if r.links.get? id = some u then none else r.index.get? u := by
  unfold link
  rw [if_pos h]
  show (Table.insert _ v id).get? u = _
  rw [Table.get?_insert]
  cases r.links.get? id with
  | none => simp
  | some old => simp [Table.get?_erase, eq_comm]

/-- A record that has no node yet is linked without undoing anything. -/
theorem get?_link_index (h : r.records.contains id = true)
    (hfree : r.links.get? id = none) (u : Handle) :
    (r.link v id).2.index.get? u
      = if u = v then some id else r.index.get? u := by
  rw [get?_link_index_of_contains h, hfree]
  simp

/-- What does not exist is not linked. -/
theorem link_of_not_contains (h : r.records.contains id = false) (v : Handle) :
    r.link v id = (false, r) := by
  unfold link
  rw [if_neg (by simp [h])]

/-! ## Changes of one record -/

@[simp] theorem update_fst (r : Registry) (id : String) (f : Record → Record) :
    (r.update id f).1 = r.records.contains id := by
  unfold update
  split <;> simp_all

/-- A change reaches the record that it is for, if there is one. -/
theorem get?_update (r : Registry) (id : String) (f : Record → Record)
    (j : String) :
    (r.update id f).2.records.get? j
      = if j = id then (r.records.get? id).map f else r.records.get? j := by
  unfold update
  split
  · exact Table.get?_modify _ _ _ _
  · rename_i h
    rw [Bool.not_eq_true, Table.contains_eq_false_iff] at h
    split
    · rename_i hj
      rw [hj, h]
      rfl
    · rfl

/-- A change neither makes nor removes a record. -/
theorem contains_update (r : Registry) (id : String) (f : Record → Record)
    (j : String) :
    (r.update id f).2.records.contains j = r.records.contains j := by
  unfold update
  split
  · exact Table.contains_modify _ _ _ _
  · rfl

@[simp] theorem update_order (r : Registry) (id : String)
    (f : Record → Record) : (r.update id f).2.order = r.order := by
  unfold update
  split <;> rfl

@[simp] theorem update_index (r : Registry) (id : String)
    (f : Record → Record) : (r.update id f).2.index = r.index := by
  unfold update
  split <;> rfl

@[simp] theorem update_links (r : Registry) (id : String)
    (f : Record → Record) : (r.update id f).2.links = r.links := by
  unfold update
  split <;> rfl

@[simp] theorem update_templates (r : Registry) (id : String)
    (f : Record → Record) : (r.update id f).2.templates = r.templates := by
  unfold update
  split <;> rfl

@[simp] theorem update_code (r : Registry) (id : String)
    (f : Record → Record) : (r.update id f).2.code = r.code := by
  unfold update
  split <;> rfl

@[simp] theorem update_nextId (r : Registry) (id : String)
    (f : Record → Record) : (r.update id f).2.nextId = r.nextId := by
  unfold update
  split <;> rfl

/-- A record gets a dynamic input unless it has an input of that name. -/
theorem addDynamicInput_eq {name type : String}
    (hx : r.records.get? id = some x) :
    r.addDynamicInput id name type
      = if x.hasInput name then (false, r)
        else r.update id (Record.withInput name type) := by
  unfold addDynamicInput record?
  rw [hx]
  rfl

/-- A record loses a dynamic input exactly if it has one of that name. -/
theorem removeDynamicInput_fst {name : String}
    (hx : r.records.get? id = some x) :
    (r.removeDynamicInput id name).1
      = x.dynamicInputs.any (fun p => p.name == name) := by
  unfold removeDynamicInput record?
  rw [hx, Bool.eq_iff_iff, bne_iff_ne, ne_eq, List.length_filter_eq_length_iff]
  simp

/-- Taking away a dynamic input that is not there changes nothing, so it may
    be taken away in any case. -/
theorem removeDynamicInput_snd {name : String}
    (hx : r.records.get? id = some x) :
    (r.removeDynamicInput id name).2
      = (r.update id (Record.withoutInput name)).2 := by
  unfold removeDynamicInput record? update
  simp only [hx, Table.contains, Option.isSome_some, if_true, Table.modify,
    Record.withoutInput]

end NodeFlow.Registry
