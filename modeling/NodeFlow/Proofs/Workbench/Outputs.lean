import NodeFlow.Proofs.Execution.Removal
import NodeFlow.Proofs.Workbench.Handles

/-! # What operations do to outputs

    An operation on a workbench leaves a node with its outputs and what they
    hold, or the node holds nothing afterwards: because it is new, has been
    given other ports or imported, or because there is none any more
    (`held?_perform`). -/

namespace NodeFlow

/-- The outputs of a node and what they hold. -/
def LiveNode.held (n : LiveNode) : List Port × List (Option Json) :=
  (n.outputs, n.values)

namespace Graph

variable {g g' : Graph} {u v : Handle} {n : LiveNode}

/-- The outputs of the node with a handle and what they hold. -/
def held? (g : Graph) (v : Handle) :
    Option (List Port × List (Option Json)) :=
  (g.nodes.get? v).map LiveNode.held

/-- Whether no output of a node holds a value. -/
def Cleared (g : Graph) (v : Handle) : Prop :=
  ∀ n, g.nodes.get? v = some n → ∀ value ∈ n.values, value = none

/-- No output of a cleared node holds a value. -/
theorem Cleared.outputData? (h : g.Cleared v) (i : Nat) :
    g.outputData? v i = none := by
  unfold Graph.outputData?
  cases hn : g.nodes.get? v with
  | none => rfl
  | some n =>
      show n.values[i]? >>= id = none
      cases hi : n.values[i]? with
      | none => rfl
      | some value => exact h n hn value (List.mem_of_getElem? hi)

/-- A node whose values have been cleared is cleared. -/
theorem cleared_of_clearValues (hn : g.nodes.get? v = some n)
    (hclear : n.values = List.replicate n.outputs.length none) :
    g.Cleared v := by
  intro m hm value hvalue
  obtain rfl := Option.some.inj (hn.symm.trans hm)
  rw [hclear] at hvalue
  exact List.eq_of_mem_replicate hvalue

/-- Where there is no node there is no value. -/
theorem cleared_of_dead (h : g.nodes.get? v = none) : g.Cleared v := by
  intro n hn
  rw [h] at hn
  cases hn

/-- What outputs hold depends on their node only. -/
theorem held?_eq_of_nodes (h : g'.nodes.get? v = g.nodes.get? v) :
    g'.held? v = g.held? v :=
  congrArg (Option.map LiveNode.held) h

/-- Outputs that hold the same are the same. -/
theorem outputs?_eq_of_held? (h : g'.held? v = g.held? v) :
    g'.outputs? v = g.outputs? v := by
  have hfst (k : Graph) : k.outputs? v = (k.held? v).map Prod.fst := by
    unfold outputs? held?
    rw [Option.map_map]
    rfl
  rw [hfst, hfst, h]

/-- Outputs that hold the same do so on a node that is live before and
    after. -/
theorem exists_of_held?_eq (h : g'.held? v = g.held? v)
    (hn : g'.nodes.get? v = some n) :
    ∃ m, g.nodes.get? v = some m ∧ m.values = n.values := by
  unfold held? at h
  rw [hn] at h
  obtain ⟨m, hm, hsame⟩ := Option.map_eq_some_iff.mp h.symm
  exact ⟨m, hm, congrArg Prod.snd hsame⟩

/-- A node may change if its outputs and values stay. -/
theorem held?_putNode (hn : g.nodes.get? u = some n) {m : LiveNode}
    (hheld : m.held = n.held) : (g.putNode u m).held? v = g.held? v := by
  unfold held?
  rw [putNode_nodes, Table.get?_insert]
  split
  · rename_i hvu
    rw [hvu, hn, Option.map_some, Option.map_some, hheld]
  · rfl

/-- A new input touches no output. -/
theorem held?_addInput {p : Port} (h : g.addInput u p = .ok g') :
    g'.held? v = g.held? v := by
  obtain ⟨n, hn, rfl⟩ := addInput_eq_ok_iff.mp h
  exact held?_putNode hn rfl

/-- An input that goes touches no output. -/
theorem held?_removeInput {name : String} {b : Bool}
    (h : g.removeInput u name = .ok (b, g')) : g'.held? v = g.held? v := by
  obtain ⟨n, hn, ⟨-, -, rfl⟩ | ⟨slot, -, -, rfl⟩⟩ := removeInput_eq_ok_iff.mp h
  · rfl
  · exact held?_putNode (g := g.closeSlot u slot) hn rfl

/-- A node that is removed holds nothing. -/
theorem cleared_removeNode (g : Graph) (v : Handle) :
    (g.removeNode v).2.Cleared v := by
  unfold removeNode
  split
  · exact cleared_of_dead (by rw [Table.get?_erase, if_pos rfl])
  · rename_i hdead
    exact cleared_of_dead
      (Table.contains_eq_false_iff.mp (Bool.eq_false_iff.mpr hdead))

/-- A graph that is read holds nothing. -/
theorem cleared_reread (g : Graph) (v : Handle) : g.reread.Cleared v := by
  intro n hn
  obtain ⟨m, -, rfl⟩ := get?_reread.mp hn
  exact fun value hvalue => List.eq_of_mem_replicate hvalue

end Graph

namespace Workbench

variable {w w' : Workbench} {o : Operation} {u v : Handle}

/-! ## Operations -/

/-- Whether an operation is one of a workbench, or links two ports.  A node is
    added only while handles are left, and only exports are imported. -/
def Regular (w : Workbench) : Operation → Prop
  | .addNode _ => w.graph.lastHandle + 1 < Graph.handleLimit
  | .configure s => ∃ w', Reachable (fun _ => True) w' ∧ s = w'.snapshot
  | .graph g => ∃ s i t j, w.graph.connect s i t j = .ok g
  | .template _ | .registry _ => False
  | _ => True

/-- Whether an operation leaves a node there with its structure. -/
def Leaves (w : Workbench) (v : Handle) : Operation → Prop
  | .removeNode u => u ≠ v
  | .applyStructure id _ _ _ => w.registry.handleOf? id ≠ some v
  | .configure _ | .clear => False
  | _ => True

/-- Whether a workbench is another one after an operation. -/
def Operated (w w' : Workbench) : Prop :=
  ∃ o, w.Regular o ∧ w' = w.perform o

/-- Whether it is that after an operation that leaves a node there. -/
def OperatedAside (v : Handle) (w w' : Workbench) : Prop :=
  ∃ o, w.Regular o ∧ w.Leaves v o ∧ w' = w.perform o

/-- Regular operations lead to workbenches that can be reached. -/
theorem Reachable.perform (h : Reachable (fun _ => True) w)
    (ho : w.Regular o) : Reachable (fun _ => True) (w.perform o) := by
  cases o with
  | addNode nodeType => exact h.step (.addNode nodeType ho)
  | removeNode v => exact h.step (.removeNode v)
  | addDynamicInput v name type => exact h.step (.addDynamicInput v name type)
  | removeDynamicInput v name => exact h.step (.removeDynamicInput v name)
  | applyStructure id title ins outs =>
      exact h.step (.applyStructure id title (fun _ _ => trivial)
        (fun _ _ => trivial))
  | setCode id code language now => exact h.step (.setCode id code language now)
  | setDescription id text => exact h.step (.setDescription id text)
  | configure s =>
      obtain ⟨w', h', rfl⟩ := ho
      exact h.configure h'
  | clear => exact h.step .clear
  | template t => exact ho.elim
  | registry o => exact ho.elim
  | graph g =>
      obtain ⟨s, i, t, j, hg⟩ := ho
      have hstep := h.step (.connect s i t j)
      rwa [hg] at hstep

/-! ## Outputs -/

/-- What a change keeps if it succeeds is kept if it is attempted. -/
theorem held?_attempt {g : Graph} {change : Except ModelError Graph}
    (h : ∀ g', change = .ok g' → g'.held? v = g.held? v) :
    (attempt g change).held? v = g.held? v := by
  cases change with
  | ok g' => exact h g' rfl
  | error e => rfl

/-- A new dynamic input touches no output. -/
theorem held?_addDynamicInput (w : Workbench) (u : Handle)
    (name type : String) :
    (w.addDynamicInput u name type).2.graph.held? v = w.graph.held? v := by
  unfold addDynamicInput
  split
  · rfl
  · simp only
    split
    · exact held?_attempt (fun g' hg => Graph.held?_addInput hg)
    · rfl

/-- A dynamic input that goes touches no output. -/
theorem held?_removeDynamicInput (w : Workbench) (u : Handle)
    (name : String) :
    (w.removeDynamicInput u name).2.graph.held? v = w.graph.held? v := by
  unfold removeDynamicInput
  split
  · rfl
  · simp only
    split
    · refine held?_attempt (fun g' hg => ?_)
      cases hremove : w.graph.removeInput u name with
      | error e =>
          rw [hremove] at hg
          cases hg
      | ok r =>
          rw [hremove] at hg
          cases hg
          exact Graph.held?_removeInput hremove
    · rfl

/-- A node that is given other ports holds nothing, and the others keep what
    they hold. -/
theorem held?_showStructure (g : Graph) (u : Handle) (title : String)
    (x : Record) :
    (v ≠ u → (showStructure g u title x).held? v = g.held? v)
      ∧ (showStructure g u title x).Cleared u := by
  cases hn : g.nodes.get? u with
  | none =>
      -- there is no node, and the graph stays as it is
      have hsame : showStructure g u title x = g := by
        unfold showStructure Graph.replacePorts Graph.node Graph.mark
        simp [hn, bind, Except.bind, attempt, Graph.contains, Table.contains]
      rw [hsame]
      exact ⟨fun _ => rfl, Graph.cleared_of_dead hn⟩
  | some n =>
      obtain ⟨g₁, g₂, -, -, hshow, hnodes, -⟩ := showStructure_eq hn title x
      rw [hshow]
      constructor
      · intro hvu
        exact Graph.held?_eq_of_nodes (by rw [hnodes, if_neg hvu])
      · exact Graph.cleared_of_clearValues
          (by rw [hnodes, if_pos rfl]) rfl

/-- A new node holds nothing, and the others hold what they held. -/
theorem held?_addNode (h : w.graph.WellFormed) (nodeType : String)
    (room : w.graph.lastHandle + 1 < Graph.handleLimit) :
    (w.addNode nodeType).2.graph.held? v = w.graph.held? v
      ∨ (w.addNode nodeType).2.graph.Cleared v
        ∧ w.graph.contains v = false := by
  rw [addNode_snd w nodeType room]
  simp only [Graph.addNode_snd _ _ _ _ _ room]
  by_cases hv : v = w.graph.lastHandle + 1
  · subst hv
    exact Or.inr ⟨Graph.cleared_of_clearValues
      (by rw [Table.get?_insert, if_pos rfl]) rfl,
      Table.contains_eq_false_iff.mpr h.get?_fresh⟩
  · exact Or.inl (Graph.held?_eq_of_nodes
      (by rw [Table.get?_insert, if_neg hv]))

/-- New ports clear the node that gets them, and the others hold what they
    held. -/
theorem held?_applyStructure (w : Workbench) (id title : String)
    (ins outs : List Port) :
    (w.applyStructure id title ins outs).2.graph.held? v = w.graph.held? v
      ∨ (w.applyStructure id title ins outs).2.graph.Cleared v
        ∧ w.registry.handleOf? id = some v := by
  rw [applyStructure_snd]
  simp only
  split
  · rename_i x u hx hu
    obtain ⟨hothers, hclear⟩ := held?_showStructure (v := v) w.graph u
      title (Registry.restructured title ins outs x)
    by_cases hvu : v = u
    · subst hvu
      exact Or.inr ⟨hclear, hu⟩
    · exact Or.inl (hothers hvu)
  · exact Or.inl rfl

/-- After an operation a node holds what it held or nothing, and the latter
    only if it is new or the operation does not leave it there. -/
theorem held?_perform (h : w.graph.WellFormed) (ho : w.Regular o)
    (v : Handle) :
    (w.perform o).graph.held? v = w.graph.held? v
      ∨ (w.perform o).graph.Cleared v
        ∧ (w.graph.contains v = true → ¬ w.Leaves v o) := by
  cases o with
  | addNode nodeType =>
      refine (held?_addNode h nodeType ho).imp_right
        (And.imp_right (fun hdead hlive => ?_))
      rw [hdead] at hlive
      cases hlive
  | removeNode u =>
      by_cases hvu : v = u
      · subst hvu
        exact Or.inr ⟨w.graph.cleared_removeNode v, fun _ hne => hne rfl⟩
      · exact Or.inl (Graph.held?_eq_of_nodes (get?_removeNode w.graph hvu))
  | addDynamicInput u name type =>
      exact Or.inl (w.held?_addDynamicInput u name type)
  | removeDynamicInput u name =>
      exact Or.inl (w.held?_removeDynamicInput u name)
  | applyStructure id title ins outs =>
      exact (w.held?_applyStructure id title ins outs).imp_right
        (And.imp_right (fun hnode _ hne => hne hnode))
  | setCode id code language now =>
      exact Or.inl (congrArg (Graph.held? · v)
        (w.setCode_graph id code language now))
  | setDescription id text => exact Or.inl rfl
  | configure s =>
      obtain ⟨w', h', rfl⟩ := ho
      -- an import that is refused at the graph changes nothing
      obtain ⟨e, he⟩ | ⟨r, hr, -⟩ :=
        configure_snapshot (h'.consistent seen_reread) w
      · rw [perform, he]
        exact Or.inl rfl
      · rw [perform, hr]
        exact Or.inr ⟨w'.graph.cleared_reread v, fun _ hleaves => hleaves⟩
  | clear =>
      exact Or.inr ⟨Graph.cleared_of_dead (by simp [perform, clear]),
        fun _ hleaves => hleaves⟩
  | template t => exact ho.elim
  | registry o => exact ho.elim
  | graph g =>
      obtain ⟨s, i, t, j, hg⟩ := ho
      obtain ⟨-, -, -, rfl⟩ := Graph.connect_eq_ok_iff.mp hg
      exact Or.inl rfl

/-- An operation leaves what a node holds as it is, or clears it. -/
theorem Operated.held? (h : w.Operated w') (hg : w.graph.WellFormed)
    (v : Handle) :
    w'.graph.held? v = w.graph.held? v ∨ w'.graph.Cleared v := by
  obtain ⟨o, ho, rfl⟩ := h
  exact (held?_perform hg ho v).imp_right And.left

/-- To leave a node in place is to operate. -/
theorem OperatedAside.operated (h : OperatedAside v w w') : w.Operated w' := by
  obtain ⟨o, ho, -, rfl⟩ := h
  exact ⟨o, ho, rfl⟩

/-- An operation that leaves a node there leaves its outputs. -/
theorem OperatedAside.outputs? (h : OperatedAside v w w')
    (hg : w.graph.WellFormed) (hv : w.graph.contains v = true) :
    w'.graph.outputs? v = w.graph.outputs? v := by
  obtain ⟨o, ho, hleaves, rfl⟩ := h
  obtain hsame | ⟨-, hnot⟩ := held?_perform hg ho v
  · exact Graph.outputs?_eq_of_held? hsame
  · exact absurd hleaves (hnot hv)

end Workbench
end NodeFlow
