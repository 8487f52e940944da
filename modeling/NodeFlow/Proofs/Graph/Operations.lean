import NodeFlow.Graph.Basic
import NodeFlow.Proofs.Table

/-! # What the operations on a graph do

    For every operation: when it succeeds, and what the graph is then.  An
    operation that can be refused succeeds exactly where the node and the
    places that it names exist; later proofs use these equivalences and never
    open an operation. -/

namespace NodeFlow.Graph

variable {g g' : Graph} {v : Handle} {n : LiveNode}

/-- A handle is live exactly if there is a node under it. -/
theorem contains_iff : g.contains v = true ↔ ∃ n, g.nodes.get? v = some n :=
  Table.contains_iff

/-! ## Marks -/

@[simp] theorem mark_nodes (g : Graph) (v : Handle) :
    (g.mark v).nodes = g.nodes := by
  unfold mark
  split <;> rfl

@[simp] theorem mark_links (g : Graph) (v : Handle) :
    (g.mark v).links = g.links := by
  unfold mark
  split <;> rfl

@[simp] theorem mark_lastHandle (g : Graph) (v : Handle) :
    (g.mark v).lastHandle = g.lastHandle := by
  unfold mark
  split <;> rfl

/-- Only live nodes get a mark. -/
theorem contains_of_mark_dirty {u : Handle}
    (h : (g.mark v).dirty.contains u = true) :
    g.dirty.contains u = true ∨ g.contains u = true := by
  unfold mark at h
  split at h
  · rename_i hv
    rw [Table.contains_insert] at h
    by_cases hu : u = v
    · exact Or.inr (hu ▸ hv)
    · exact Or.inl (by simpa [hu] using h)
  · exact Or.inl h

/-- To put a node in is to store and to mark it, as it is there then. -/
theorem putNode_eq (g : Graph) (v : Handle) (n : LiveNode) :
    g.putNode v n
      = { g with
          nodes := g.nodes.insert v n
          dirty := g.dirty.insert v () } := by
  unfold putNode mark
  rw [if_pos]
  exact contains_iff.mpr ⟨n, by rw [Table.get?_insert, if_pos rfl]⟩

/-- Of two nodes that are put in under one handle the second one stays. -/
theorem putNode_putNode (g : Graph) (v : Handle) (n m : LiveNode) :
    (g.putNode v n).putNode v m = g.putNode v m := by
  simp only [putNode_eq, Table.insert_insert]

/-- A node that has been put is marked. -/
theorem mark_putNode (g : Graph) (v : Handle) (n : LiveNode) :
    (g.putNode v n).mark v = g.putNode v n := by
  have hv : (g.putNode v n).contains v = true := by
    rw [putNode_eq]
    exact contains_iff.mpr ⟨n, by rw [Table.get?_insert, if_pos rfl]⟩
  rw [mark, if_pos hv, putNode_eq, Table.insert_insert]

@[simp] theorem putNode_nodes (g : Graph) (v : Handle) (n : LiveNode) :
    (g.putNode v n).nodes = g.nodes.insert v n := mark_nodes _ _

@[simp] theorem putNode_links (g : Graph) (v : Handle) (n : LiveNode) :
    (g.putNode v n).links = g.links := mark_links _ _

@[simp] theorem putNode_lastHandle (g : Graph) (v : Handle) (n : LiveNode) :
    (g.putNode v n).lastHandle = g.lastHandle := mark_lastHandle _ _

@[simp] theorem dropLinks_nodes (g : Graph) (v : Handle) :
    (g.dropLinks v).nodes = g.nodes := rfl

@[simp] theorem dropLinks_lastHandle (g : Graph) (v : Handle) :
    (g.dropLinks v).lastHandle = g.lastHandle := rfl

/-! ## When an operation succeeds -/

/-- A title can be given exactly to a node that is live. -/
theorem setTitle_eq_ok_iff {title : String} :
    g.setTitle v title = .ok g' ↔
      ∃ n, g.nodes.get? v = some n
        ∧ g' = g.putNode v { n with title := title } := by
  unfold setTitle node
  cases g.nodes.get? v <;> simp [bind, Except.bind, eq_comm]

/-- Ports can be given exactly to a node that is live, and its links and
    values go. -/
theorem replacePorts_eq_ok_iff {ins outs : List Port} :
    g.replacePorts v ins outs = .ok g' ↔
      ∃ n, g.nodes.get? v = some n
        ∧ g' = (g.dropLinks v).putNode v
            (LiveNode.clearValues
              { n with inputs := ins, outputs := outs }) := by
  unfold replacePorts node
  cases g.nodes.get? v <;> simp [bind, Except.bind, eq_comm]

/-- An input can be given exactly to a node that is live, and comes last. -/
theorem addInput_eq_ok_iff {p : Port} :
    g.addInput v p = .ok g' ↔
      ∃ n, g.nodes.get? v = some n
        ∧ g' = g.putNode v { n with inputs := n.inputs ++ [p] } := by
  unfold addInput node
  cases g.nodes.get? v <;> simp [bind, Except.bind, eq_comm]

/-- The graph without the links into one input, with the links into later
    inputs of its node moved up. -/
def closeSlot (g : Graph) (v : Handle) (slot : Nat) : Graph :=
  { g with
    links :=
      (g.links.filter (fun l => !l.enters v slot)).map
        (fun l => l.closeGap v slot) }

/-- An input can be taken exactly from a node that is live; if it has none of
    that name nothing changes, and otherwise the first one goes and the gap in
    the links is closed. -/
theorem removeInput_eq_ok_iff {name : String} {b : Bool} :
    g.removeInput v name = .ok (b, g') ↔
      ∃ n, g.nodes.get? v = some n
        ∧ ((n.inputs.findIdx? (fun p => p.name == name) = none
              ∧ b = false ∧ g' = g)
          ∨ ∃ slot, n.inputs.findIdx? (fun p => p.name == name) = some slot
              ∧ b = true
              ∧ g' = (g.closeSlot v slot).putNode v
                  { n with inputs := n.inputs.eraseIdx slot }) := by
  unfold removeInput node closeSlot
  cases g.nodes.get? v with
  | none => simp [bind, Except.bind]
  | some n =>
      cases hi : n.inputs.findIdx? (fun p => p.name == name) <;>
        simp [bind, Except.bind, hi, eq_comm]

/-- A value can be put exactly on an output that a live node has. -/
theorem setOutputData_eq_ok_iff {index : Nat} {value : Option Json} :
    g.setOutputData v index value = .ok g' ↔
      ∃ n, g.nodes.get? v = some n ∧ index < n.values.length
        ∧ g' = { g with
            nodes :=
              g.nodes.insert v
                { n with values := n.values.set index value } } := by
  unfold setOutputData node
  cases g.nodes.get? v with
  | none => simp [bind, Except.bind]
  | some n =>
      by_cases hi : index < n.values.length <;>
        simp [bind, Except.bind, hi, eq_comm]

/-- A link can be made exactly between an output and an input of two live
    nodes, and replaces the one that entered the input. -/
theorem connect_eq_ok_iff {s t : Handle} {i j : Nat} :
    g.connect s i t j = .ok g' ↔
      s ≠ t
        ∧ (∃ n, g.nodes.get? s = some n ∧ i < n.outputs.length)
        ∧ (∃ n, g.nodes.get? t = some n ∧ j < n.inputs.length)
        ∧ g' = { g with
            links :=
              g.links.filter (fun l => !l.enters t j) ++ [⟨s, i, t, j⟩] } := by
  unfold connect node
  by_cases hst : s = t
  · simp [hst]
  · cases hs : g.nodes.get? s with
    | none => simp [bind, Except.bind, hst]
    | some n =>
        by_cases hi : i < n.outputs.length
        · cases ht : g.nodes.get? t with
          | none => simp [bind, Except.bind, hst, Nat.not_le.mpr hi]
          | some m =>
              by_cases hj : j < m.inputs.length
              · simp [bind, Except.bind, hst, hi, hj, eq_comm,
                  Nat.not_le.mpr hi, Nat.not_le.mpr hj]
              · simp [bind, Except.bind, hst, hj, Nat.not_le.mpr hi,
                  Nat.not_lt.mp hj]
        · simp [bind, Except.bind, hst, hi, Nat.not_lt.mp hi]

/-! ## What stays when values change -/

/-- The graph with nothing on any output and without marks. -/
def blank (g : Graph) : Graph :=
  { g with
    nodes := g.nodes.mapValues LiveNode.clearValues
    dirty := Table.empty }

@[simp] theorem mark_blank (g : Graph) (v : Handle) :
    (g.mark v).blank = g.blank := by
  unfold mark
  split <;> rfl

/-- A value on an output is nothing that a blank graph shows. -/
theorem setOutputData_blank {index : Nat} {value : Option Json}
    (h : g.setOutputData v index value = .ok g') : g'.blank = g.blank := by
  obtain ⟨n, hv, -, rfl⟩ := setOutputData_eq_ok_iff.mp h
  unfold blank
  congr 1
  refine Table.ext_get? (fun u => ?_)
  rw [Table.get?_mapValues, Table.get?_mapValues, Table.get?_insert]
  split
  · rename_i hu
    rw [hu, hv]
    rfl
  · rfl

/-- Graphs that are the same when blank have the same links. -/
theorem links_eq_of_blank (h : g'.blank = g.blank) : g'.links = g.links := by
  have hlinks := congrArg Graph.links h
  exact hlinks

/-- Graphs that are the same when blank have given the same handles. -/
theorem lastHandle_eq_of_blank (h : g'.blank = g.blank) :
    g'.lastHandle = g.lastHandle := by
  have hlast := congrArg Graph.lastHandle h
  exact hlast

/-- Graphs that are the same when blank have the same live nodes. -/
theorem contains_eq_of_blank (h : g'.blank = g.blank) (v : Handle) :
    g'.contains v = g.contains v := by
  have hnode := congrArg (fun k => (k.nodes.get? v).isSome) h
  simpa [blank, Table.get?_mapValues, contains, Table.contains] using hnode

/-- A live node stays live, and only what it holds changes. -/
theorem exists_of_blank_eq (h : g'.blank = g.blank)
    (hv : g'.nodes.get? v = some n) :
    ∃ m, g.nodes.get? v = some m ∧ m.clearValues = n.clearValues := by
  have hnode := congrArg (fun k => k.nodes.get? v) h
  simp only [blank, Table.get?_mapValues, hv, Option.map_some] at hnode
  exact Option.map_eq_some_iff.mp hnode.symm

end NodeFlow.Graph
