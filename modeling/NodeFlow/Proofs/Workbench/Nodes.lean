import NodeFlow.Proofs.Workbench.Consistent

/-! # Adding and removing nodes

    A new node gets a handle and a record that no node has had, and the two
    start alike.  A node that is removed takes its record along. -/

namespace NodeFlow.Workbench

variable {ok : Port → Prop} {view : Port → Port} {w : Workbench} {v : Handle}
  {x : Record}

theorem Consistent.clear (h : w.Consistent ok view) :
    w.clear.Consistent ok view where
  graph := Graph.wellFormed_empty
  registry := Registry.wellFormed_clear w.registry
  ports := by simp [Workbench.clear, Registry.clear]
  templates := h.templates
  shows := by simp [Workbench.clear, Registry.clear, Registry.recordOf?]
  bounded := by simp [Workbench.clear, Registry.clear]

/-! ## Adding -/

/-- The next handle leads to no record yet. -/
theorem Consistent.index_fresh (h : w.Consistent ok view) :
    w.registry.index.get? (w.graph.lastHandle + 1) = none := by
  cases hv : w.registry.index.get? (w.graph.lastHandle + 1) with
  | none => rfl
  | some id =>
      -- a node with a record is live, and the next one is not
      obtain ⟨x, hx, -⟩ := h.registry.contains_of_index hv
      obtain ⟨n, hn, -⟩ :=
        h.shows _ x (Registry.recordOf?_eq_some_iff.mpr ⟨id, hv, hx⟩)
      rw [h.graph.get?_fresh] at hn
      cases hn

/-- There are identifiers left while there are handles left. -/
theorem Consistent.room (h : w.Consistent ok view)
    (room : w.graph.lastHandle + 1 < Graph.handleLimit) :
    w.registry.order.length + 1 < Registry.idLimit :=
  Nat.lt_of_le_of_lt (Nat.succ_le_succ h.bounded) room

/-- Title, inputs and outputs of a new node. -/
def starting (w : Workbench) (nodeType : String) :
    String × List Port × List Port :=
  match w.registry.templates.get? nodeType with
  | some t => (t.title, t.inputs, t.outputs)
  | none => (nodeType, [], [])

/-- While handles are left, a node is added to graph and registry under the
    next one. -/
theorem addNode_snd (w : Workbench) (nodeType : String)
    (room : w.graph.lastHandle + 1 < Graph.handleLimit) :
    (w.addNode nodeType).2
      = ⟨(w.graph.addNode nodeType (w.starting nodeType).1
            (w.starting nodeType).2.1 (w.starting nodeType).2.2).2,
          (w.registry.add (w.graph.lastHandle + 1) nodeType).2⟩ := by
  rw [← Graph.addNode_fst w.graph nodeType (w.starting nodeType).1
    (w.starting nodeType).2.1 (w.starting nodeType).2.2 room]
  rfl

/-- A new record and its node start alike. -/
theorem newNode_shows (w : Workbench) (nodeType id : String) :
    (w.graph.newNode nodeType (w.starting nodeType).1
        (w.starting nodeType).2.1 (w.starting nodeType).2.2).Shows view
      (w.registry.newRecord id nodeType) := by
  unfold starting Registry.newRecord Graph.newNode
  cases w.registry.templates.get? nodeType with
  | none => exact ⟨rfl, rfl, rfl⟩
  | some t =>
      refine ⟨rfl, ?_, rfl⟩
      simp [Record.liveInputs]

/-- A new node shows its new record. -/
theorem Consistent.addNode (h : w.Consistent ok view) (nodeType : String)
    (room : w.graph.lastHandle + 1 < Graph.handleLimit) :
    (w.addNode nodeType).2.Consistent ok view := by
  have hindex := h.index_fresh
  have hadd := h.registry.added hindex (h.room room) nodeType
  have heq := Registry.add_eq h.registry hindex nodeType
  rw [addNode_snd w nodeType room]
  constructor
  · exact h.graph.addNode _ _ _ _ room
  · exact h.registry.add hindex (h.room room) nodeType
  · intro j y hj
    rw [hadd.records] at hj
    split at hj
    · cases hj
      exact h.templates _ _
    · exact h.ports j y hj
  · intro type id
    rw [newRecord_congr (r := w.registry)]
    · exact h.templates type id
    · rw [heq, Registry.link_templates]
      rfl
  · -- the new node shows the new record, all others show what they did
    intro u y hu
    show ∃ n, (w.graph.addNode _ _ _ _).2.nodes.get? u = some n ∧ _
    rw [Graph.addNode_snd _ _ _ _ _ room]
    rw [h.registry.recordOf?_add hindex (h.room room)] at hu
    by_cases huv : u = w.graph.lastHandle + 1
    · rw [if_pos huv] at hu
      cases hu
      exact ⟨_, by rw [Table.get?_insert, if_pos huv], newNode_shows w _ _⟩
    · rw [if_neg huv] at hu
      obtain ⟨n, hn, hshow⟩ := h.shows u y hu
      exact ⟨n, by rw [Table.get?_insert, if_neg huv, hn], hshow⟩
  · show (w.registry.add _ _).2.order.length
      ≤ (w.graph.addNode _ _ _ _).2.lastHandle
    rw [Graph.addNode_snd _ _ _ _ _ room, heq, Registry.link_order]
    show (w.registry.order ++ [_]).length ≤ w.graph.lastHandle + 1
    rw [List.length_append]
    exact Nat.succ_le_succ h.bounded

/-! ## Removing -/

/-- A record that is left is as it was but for the mark of removal. -/
theorem get?_remove_records {r : Registry} {id : String} {y : Record}
    (hy : (r.remove v).2.records.get? id = some y) :
    ∃ x, r.records.get? id = some x
      ∧ (y = x ∨ y = { x with removed := true }) := by
  cases hv : r.index.get? v with
  | none =>
      rw [Registry.remove_of_none hv] at hy
      exact ⟨y, hy, Or.inl rfl⟩
  | some j =>
      rw [Registry.remove_of_some hv, Table.get?_modify] at hy
      split at hy
      · rename_i hid
        obtain ⟨x, hx, rfl⟩ := Option.map_eq_some_iff.mp hy
        exact ⟨x, hid ▸ hx, Or.inr rfl⟩
      · exact ⟨y, hy, Or.inl rfl⟩

theorem get?_removeNode (g : Graph) {u v : Handle} (huv : u ≠ v) :
    (g.removeNode v).2.nodes.get? u = g.nodes.get? u := by
  unfold Graph.removeNode
  split
  · rw [Table.get?_erase, if_neg huv]
  · rfl

/-- A node goes with its record, and the others stay as they are. -/
theorem Consistent.removeNode (h : w.Consistent ok view) (v : Handle) :
    (w.removeNode v).2.Consistent ok view where
  graph := h.graph.removeNode v
  registry := h.registry.remove v
  ports j y hj := by
    obtain ⟨x, hx, rfl | rfl⟩ := get?_remove_records (v := v) hj
    · exact h.ports j y hx
    · exact ⟨(h.ports j x hx).inputs, (h.ports j x hx).dynamic,
        (h.ports j x hx).outputs⟩
  templates type id := by
    rw [newRecord_congr (r := w.registry)]
    · exact h.templates type id
    · show (w.registry.remove v).2.templates = w.registry.templates
      unfold Registry.remove
      split <;> rfl
  shows u y hu := by
    change (w.registry.remove v).2.recordOf? u = some y at hu
    rw [Registry.recordOf?_remove h.registry] at hu
    split at hu
    · cases hu
    · rename_i huv
      obtain ⟨n, hn, hshow⟩ := h.shows u y hu
      exact ⟨n, (get?_removeNode w.graph huv).trans hn, hshow⟩
  bounded := by
    have horder : (w.registry.remove v).2.order = w.registry.order := by
      unfold Registry.remove
      split <;> rfl
    have hlast : (w.graph.removeNode v).2.lastHandle = w.graph.lastHandle := by
      unfold Graph.removeNode
      split <;> rfl
    show (w.registry.remove v).2.order.length
      ≤ (w.graph.removeNode v).2.lastHandle
    rw [horder, hlast]
    exact h.bounded

end NodeFlow.Workbench
