import Mathlib.Data.List.Induction
import NodeFlow.Proofs.Registry.Mutual

/-! # Removed records

    A record stays in the registry when its node is removed, and is marked.
    No node leads to it any more, and nothing that is done to records or by
    removing other nodes changes that.  A link by identifier may: it is made
    to any record that there is.  So may an import, whose records may be
    marked already.

    So an operation lets a node lead to a removed record exactly if it makes
    such a link (`Tied.noneRemoved_perform_iff`). -/

namespace NodeFlow.Registry

variable {r r' : Registry} {v : Handle} {id : String} {x : Record}

/-- Whether no node leads to a removed record. -/
def NoneRemoved (r : Registry) : Prop :=
  ∀ v x, r.recordOf? v = some x → x.removed = false

/-- The record that is linked to a node last. -/
def last? (l : List (String × Handle)) (v : Handle) : Option String :=
  (l.reverse.find? (fun e => e.2 == v)).map (·.1)

/-- The record that a node leads to after an import. -/
def imported? (g : Graph) (r : Registry) (s : Snapshot) (v : Handle) :
    Option Record :=
  (last? (linksMade g (r.load s.nodes s.code) s.links.entries) v).bind
    (first? s.nodes)

/-- Whether an operation links no node to a removed record. -/
def Sparing (r : Registry) : Operation → Prop
  | .link _ id => ∀ x, r.record? id = some x → x.removed = false
  | .configure s =>
      ∀ g, Graph.configure s.graph = .ok g →
        ∀ v x, imported? g r s v = some x → x.removed = false
  | _ => True

/-! ## Changes of records -/

/-- What stays when no record is removed or linked. -/
structure SameMarks (r r' : Registry) : Prop where
  /-- The record of each node. -/
  index : r'.index = r.index
  /-- The marks of the records. -/
  removed : ∀ id x, r'.records.get? id = some x →
    ∃ y, r.records.get? id = some y ∧ x.removed = y.removed

/-- Where nothing happens marks stay. -/
theorem SameMarks.refl (r : Registry) : SameMarks r r :=
  ⟨rfl, fun _ x hx => ⟨x, hx, rfl⟩⟩

/-- Marks that stay twice stay. -/
theorem SameMarks.trans {r'' : Registry} (h : SameMarks r r')
    (h' : SameMarks r' r'') : SameMarks r r'' where
  index := h'.index.trans h.index
  removed id x hx := by
    obtain ⟨y, hy, hxy⟩ := h'.removed id x hx
    obtain ⟨z, hz, hyz⟩ := h.removed id y hy
    exact ⟨z, hz, hxy.trans hyz⟩

/-- No node leads to a removed record as long as links and marks stay. -/
theorem SameMarks.noneRemoved (hs : SameMarks r r') (h : r.NoneRemoved) :
    r'.NoneRemoved := by
  intro v x hx
  obtain ⟨id, hid, hrec⟩ := recordOf?_eq_some_iff.mp hx
  obtain ⟨y, hy, hmark⟩ := hs.removed id x hrec
  rw [hs.index] at hid
  rw [hmark]
  exact h v y (recordOf?_eq_some_iff.mpr ⟨id, hid, hy⟩)

/-- A change of a record that keeps its mark changes no mark. -/
theorem sameMarks_update {f : Record → Record}
    (hf : ∀ x, (f x).removed = x.removed) : SameMarks r (r.update id f).2 where
  index := update_index _ _ _
  removed j x hx := by
    rw [get?_update] at hx
    split at hx
    · rename_i hj
      obtain ⟨y, hy, rfl⟩ := Option.map_eq_some_iff.mp hx
      exact ⟨y, hj ▸ hy, hf y⟩
    · exact ⟨x, hx, rfl⟩

/-- A new dynamic input changes no mark. -/
theorem sameMarks_addDynamicInput (r : Registry) (id name type : String) :
    SameMarks r (r.addDynamicInput id name type).2 := by
  cases hx : r.records.get? id with
  | none =>
      unfold addDynamicInput record?
      rw [hx]
      exact .refl r
  | some x =>
      rw [addDynamicInput_eq hx]
      split
      · exact .refl r
      · exact sameMarks_update (fun _ => rfl)

/-- Taking a dynamic input away changes no mark. -/
theorem sameMarks_removeDynamicInput (r : Registry) (id name : String) :
    SameMarks r (r.removeDynamicInput id name).2 := by
  cases hx : r.records.get? id with
  | none =>
      unfold removeDynamicInput record?
      rw [hx]
      exact .refl r
  | some x =>
      rw [removeDynamicInput_snd hx]
      exact sameMarks_update (fun _ => rfl)

/-- Saving code changes no mark. -/
theorem sameMarks_saveCode (r : Registry) (id code language : String)
    (now : Timestamp) : SameMarks r (r.saveCode id code language now).2 := by
  unfold saveCode
  split
  · exact ⟨rfl, fun _ x hx => ⟨x, hx, rfl⟩⟩
  · exact .refl r

/-- Without links no node leads anywhere. -/
theorem noneRemoved_of_empty (h : r.index = Table.empty) : r.NoneRemoved := by
  intro v x hx
  obtain ⟨id, hid, -⟩ := recordOf?_eq_some_iff.mp hx
  simp [h] at hid

/-! ## Links and removals -/

/-- A link makes its node lead to the record, the node from before lead
    nowhere, and leaves the others. -/
theorem recordOf?_link (hid : r.records.contains id = true) (u : Handle) :
    (r.link v id).2.recordOf? u
      = if u = v then r.record? id
        else if r.links.get? id = some u then none else r.recordOf? u := by
  unfold recordOf? record?
  rw [get?_link_index_of_contains hid, link_records]
  split
  · rfl
  · split <;> rfl

/-- A link makes no node lead to a removed record exactly if it names none. -/
theorem NoneRemoved.link_iff (h : r.NoneRemoved) (v : Handle) (id : String) :
    (r.link v id).2.NoneRemoved ↔
      ∀ x, r.record? id = some x → x.removed = false := by
  cases hid : r.records.contains id with
  | false =>
      rw [link_of_not_contains hid]
      refine iff_of_true h (fun x hx => ?_)
      rw [record?, Table.contains_eq_false_iff.mp hid] at hx
      cases hx
  | true =>
      constructor
      · intro hall x hx
        refine hall v x ?_
        rw [recordOf?_link hid, if_pos rfl, hx]
      · intro hid' u x hx
        rw [recordOf?_link hid] at hx
        split at hx
        · exact hid' x hx
        · split at hx
          · cases hx
          · exact h u x hx

/-- A new record is not removed. -/
theorem Tied.noneRemoved_add (h : r.Tied) (hn : r.NoneRemoved) (v : Handle)
    (nodeType : String) : (r.add v nodeType).2.NoneRemoved := by
  rcases h.add_cases v nodeType with heq | ⟨-, heq⟩
  · rw [heq]
    exact hn
  · -- the new record is not removed, whether it takes the place of another
    have hnew : ∀ j x, (r.withNew nodeType).records.get? j = some x →
        x.removed = false ∨ r.records.get? j = some x := by
      intro j x hx
      change (r.records.insert _ _).get? j = some x at hx
      rw [Table.get?_insert] at hx
      split at hx
      · cases hx
        exact Or.inl (newRecord_removed r _ _)
      · exact Or.inr hx
    have hn' : (r.withNew nodeType).NoneRemoved := by
      intro u x hx
      obtain ⟨j, hj, hrec⟩ := recordOf?_eq_some_iff.mp hx
      rcases hnew j x hrec with hmark | hold
      · exact hmark
      · exact hn u x (recordOf?_eq_some_iff.mpr ⟨j, hj, hold⟩)
    rw [heq, hn'.link_iff]
    intro x hx
    change (r.records.insert _ _).get? _ = some x at hx
    rw [Table.get?_insert, if_pos rfl] at hx
    cases hx
    exact newRecord_removed r _ _

/-- The only node that leads to a record is taken off with it. -/
theorem Tied.noneRemoved_remove (h : r.Tied) (hn : r.NoneRemoved)
    (v : Handle) : (r.remove v).2.NoneRemoved := by
  cases hv : r.index.get? v with
  | none =>
      rw [remove_of_none hv]
      exact hn
  | some id =>
      rw [remove_of_some hv]
      intro u x hx
      obtain ⟨j, hj, hrec⟩ := recordOf?_eq_some_iff.mp hx
      simp only [Table.get?_erase] at hj
      split at hj
      · cases hj
      · rename_i hne
        -- the record has one node only, and that has just been taken off
        have hjid : j ≠ id := by
          rintro rfl
          have hu := (h.linked u j hj).symm.trans (h.linked v j hv)
          exact hne (Option.some.inj hu)
        simp only [Table.get?_modify, if_neg hjid] at hrec
        exact hn u x (recordOf?_eq_some_iff.mpr ⟨j, hj, hrec⟩)

/-! ## Imports -/

/-- The last link counts. -/
theorem last?_append_singleton (l : List (String × Handle))
    (e : String × Handle) (v : Handle) :
    last? (l ++ [e]) v = if e.2 = v then some e.1 else last? l v := by
  unfold last?
  rw [List.reverse_append, List.reverse_singleton, List.singleton_append,
    List.find?_cons]
  split <;> simp_all

/-- Links change no record. -/
theorem records_foldl_link (l : List (String × Handle)) (r : Registry) :
    (l.foldl (fun r e => (r.link e.2 e.1).2) r).records = r.records := by
  induction l generalizing r with
  | nil => rfl
  | cons e rest ih => rw [List.foldl_cons, ih, link_records]

/-- After links of distinct records a node leads to the record that is linked
    to it last. -/
theorem index_foldl_link (l : List (String × Handle))
    (hindex : r.index = Table.empty) (hlinks : r.links = Table.empty)
    (hrec : ∀ e ∈ l, r.records.contains e.1 = true)
    (hids : (l.map (·.1)).Nodup) (v : Handle) :
    (l.foldl (fun r e => (r.link e.2 e.1).2) r).index.get? v = last? l v := by
  -- from the last link, which decides for its node
  induction l using List.reverseRecOn with
  | nil => simp [hindex, last?]
  | append_singleton l e ih =>
      rw [List.map_append, List.nodup_append] at hids
      obtain ⟨hids, -, hnew⟩ := hids
      have hrec' : ∀ k ∈ l, r.records.contains k.1 = true := fun k hk =>
        hrec k (List.mem_append_left _ hk)
      -- the record of the last link has not been linked before
      have hfree : (l.foldl (fun r e => (r.link e.2 e.1).2) r).links.get? e.1
          = none := by
        rw [Option.eq_none_iff_forall_ne_some]
        intro u hu
        rcases (get?_foldl_link hrec' hids e.1 u).mp hu with hmem | ⟨hu, -⟩
        · exact hnew e.1 (List.mem_map.mpr ⟨_, hmem, rfl⟩) e.1
            (List.mem_singleton_self _) rfl
        · simp [hlinks] at hu
      rw [List.foldl_append, List.foldl_cons, List.foldl_nil,
        get?_link_index (by rw [records_foldl_link]; exact hrec e (by simp)) hfree,
        ih hrec' hids, last?_append_singleton]
      simp only [eq_comm]

/-- After an import a node leads to the first record of the snapshot under the
    identifier that it was linked to last. -/
theorem recordOf?_configure {s : Snapshot} {g : Graph}
    (hg : Graph.configure s.graph = .ok g) (v : Handle) :
    (r.perform (.configure s)).recordOf? v = imported? g r s v := by
  rcases r.configure_cases s with ⟨e, he, -⟩ | ⟨g', hg', heq⟩
  · rw [hg] at he
    cases he
  · rw [hg] at hg'
    cases hg'
    have hload := r.sameLinks_load s.nodes s.code
    have hids : ((linksMade g (r.load s.nodes s.code) s.links.entries).map
        (·.1)).Nodup :=
      s.links.keys_nodup.sublist ((linksMade_sublist _ _ _).map _)
    unfold recordOf? record? imported?
    rw [heq, index_foldl_link _ hload.index hload.links
      (fun _ => mem_linksMade) hids, records_foldl_link]
    exact congrArg _ (funext (r.get?_load s.nodes s.code))

/-- An import makes no node lead to a removed record exactly if the last link
    to each live node names none. -/
theorem NoneRemoved.configure_iff (h : r.NoneRemoved) (s : Snapshot) :
    (r.perform (.configure s)).NoneRemoved ↔ r.Sparing (.configure s) := by
  rcases r.configure_cases s with ⟨e, hg, heq⟩ | ⟨g, hg, -⟩
  · rw [heq, Sparing, hg]
    exact iff_of_true h (fun _ h => nomatch h)
  · simp only [Sparing, NoneRemoved, recordOf?_configure hg, hg,
      Except.ok.injEq, forall_eq']

/-! ## Operations -/

/-- An operation lets no node lead to a removed record if and only if it
    links none to one. -/
theorem Tied.noneRemoved_perform_iff (h : r.Tied) (hn : r.NoneRemoved)
    (o : Operation) : (r.perform o).NoneRemoved ↔ r.Sparing o := by
  cases o with
  | add v nodeType => exact iff_of_true (h.noneRemoved_add hn v nodeType) trivial
  | link v id => exact hn.link_iff v id
  | remove v => exact iff_of_true (h.noneRemoved_remove hn v) trivial
  | load records code =>
      -- after a load no node has a record
      have hs := r.sameLinks_load records code
      exact iff_of_true (noneRemoved_of_empty hs.index) trivial
  | clear => exact iff_of_true (noneRemoved_of_empty rfl) trivial
  -- what changes records leaves their marks
  | updateProperties id more =>
      have hs : SameMarks r (r.updateProperties id more).2 :=
        sameMarks_update (fun _ => rfl)
      exact iff_of_true (hs.noneRemoved hn) trivial
  | setStructure id title ins outs =>
      have hs : SameMarks r (r.setStructure id title ins outs).2 :=
        sameMarks_update (fun _ => rfl)
      exact iff_of_true (hs.noneRemoved hn) trivial
  | addDynamicInput id name type =>
      exact iff_of_true
        ((r.sameMarks_addDynamicInput id name type).noneRemoved hn) trivial
  | removeDynamicInput id name =>
      exact iff_of_true
        ((r.sameMarks_removeDynamicInput id name).noneRemoved hn) trivial
  | saveCode id code language now =>
      exact iff_of_true
        ((r.sameMarks_saveCode id code language now).noneRemoved hn) trivial
  | configure s => exact hn.configure_iff s

end NodeFlow.Registry
