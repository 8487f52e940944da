import NodeFlow.Proofs.Graph.Operations

/-! # Well-formed graphs

    In a well-formed graph every node is stored under its own handle, holds a
    value or none for every output, and every link joins an output to an input
    of another node, at most one to each input.

    Every operation keeps a graph well-formed.  What an operation does to the
    nodes and what it does to the links are looked at apart: `insertNode`
    says which changes of one node the links allow, and `withLinks` which
    other links the nodes allow. -/

namespace NodeFlow

/-- Whether a link joins an output to an input of another node. -/
structure Link.Joins (l : Link) (nodes : Table Handle LiveNode) : Prop where
  /-- A node is not linked to itself. -/
  apart : l.source ≠ l.target
  /-- The output exists. -/
  output : ∃ n, nodes.get? l.source = some n ∧ l.sourceSlot < n.outputs.length
  /-- The input exists. -/
  input : ∃ n, nodes.get? l.target = some n ∧ l.targetSlot < n.inputs.length

/-- Whether two links end at different inputs. -/
def Link.Elsewhere (l m : Link) : Prop :=
  ¬ (l.target = m.target ∧ l.targetSlot = m.targetSlot)

namespace Graph

/-- What every operation on a graph can rely on. -/
structure WellFormed (g : Graph) : Prop where
  /-- A node is stored under its handle. -/
  handle : ∀ v n, g.nodes.get? v = some n → n.handle = v
  /-- No handle is greater than the one given last. -/
  bounded : ∀ v n, g.nodes.get? v = some n → v ≤ g.lastHandle
  /-- Handles have 64 bits. -/
  lastHandle : g.lastHandle < handleLimit
  /-- Every output holds a value or none. -/
  values : ∀ v n, g.nodes.get? v = some n →
    n.values.length = n.outputs.length
  /-- Every link joins two nodes. -/
  links : ∀ l ∈ g.links, l.Joins g.nodes
  /-- No two links end at one input. -/
  single : g.links.Pairwise Link.Elsewhere
  /-- Only live nodes are marked. -/
  dirty : ∀ v, g.dirty.contains v = true → g.contains v = true

/-- There is nothing in the empty graph that could be wrong. -/
theorem wellFormed_empty : WellFormed {} where
  handle := by simp
  bounded := by simp
  lastHandle := by decide
  values := by simp
  links := by simp
  single := List.Pairwise.nil
  dirty := by simp [Table.contains]

variable {g g' : Graph} {v : Handle} {n : LiveNode}

/-! ## Changing nodes and links -/

/-- A node may be stored in place of another one if it has every port that a
    link needs. -/
theorem WellFormed.insertNode {m : LiveNode} (h : g.WellFormed)
    (hv : g.nodes.get? v = some n) (hhandle : m.handle = n.handle)
    (hvalues : m.values.length = m.outputs.length)
    (hin : ∀ l ∈ g.links, l.target = v → l.targetSlot < m.inputs.length)
    (hout : ∀ l ∈ g.links, l.source = v → l.sourceSlot < m.outputs.length) :
    ({ g with nodes := g.nodes.insert v m } : Graph).WellFormed where
  handle u k hu := by
    rw [Table.get?_insert] at hu
    split at hu
    · rename_i huv
      cases hu
      rw [hhandle, h.handle v n hv, huv]
    · exact h.handle u k hu
  bounded u k hu := by
    rw [Table.get?_insert] at hu
    split at hu
    · rename_i huv
      exact huv ▸ h.bounded v n hv
    · exact h.bounded u k hu
  lastHandle := h.lastHandle
  values u k hu := by
    rw [Table.get?_insert] at hu
    split at hu
    · cases hu
      exact hvalues
    · exact h.values u k hu
  -- links of the node itself fit its new ports, and all others theirs as
  -- before
  links l hl := by
    have hj := h.links l hl
    refine ⟨hj.apart, ?_, ?_⟩
    · by_cases hs : l.source = v
      · exact ⟨m, by simp [Table.get?_insert, hs], hout l hl hs⟩
      · obtain ⟨k, hk, hlt⟩ := hj.output
        exact ⟨k, by simpa [Table.get?_insert, hs] using hk, hlt⟩
    · by_cases ht : l.target = v
      · exact ⟨m, by simp [Table.get?_insert, ht], hin l hl ht⟩
      · obtain ⟨k, hk, hlt⟩ := hj.input
        exact ⟨k, by simpa [Table.get?_insert, ht] using hk, hlt⟩
  single := h.single
  dirty u hu := by
    show (g.nodes.insert v m).contains u = true
    rw [Table.contains_insert, Bool.or_eq_true]
    exact Or.inr (h.dirty u hu)

/-- Other links may be put in if each joins two nodes and no two end at one
    input. -/
theorem WellFormed.withLinks {ls : List Link} (h : g.WellFormed)
    (hjoin : ∀ l ∈ ls, l.Joins g.nodes) (hsingle : ls.Pairwise Link.Elsewhere) :
    ({ g with links := ls } : Graph).WellFormed :=
  ⟨h.handle, h.bounded, h.lastHandle, h.values, hjoin, hsingle, h.dirty⟩

/-- A mark keeps a graph well-formed. -/
theorem WellFormed.mark (h : g.WellFormed) (v : Handle) :
    (g.mark v).WellFormed where
  handle := by simpa using h.handle
  bounded := by simpa using h.bounded
  lastHandle := by simpa using h.lastHandle
  values := by simpa using h.values
  links := by simpa using h.links
  single := by simpa using h.single
  dirty u hu := by
    show (g.mark v).nodes.contains u = true
    rw [mark_nodes]
    rcases contains_of_mark_dirty hu with hu | hu
    · exact h.dirty u hu
    · exact hu

/-- A node may be changed if its handle stays, it holds one value for each
    output, and its links still fit. -/
theorem WellFormed.putNode {m : LiveNode} (h : g.WellFormed)
    (hv : g.nodes.get? v = some n) (hhandle : m.handle = n.handle)
    (hvalues : m.values.length = m.outputs.length)
    (hin : ∀ l ∈ g.links, l.target = v → l.targetSlot < m.inputs.length)
    (hout : ∀ l ∈ g.links, l.source = v → l.sourceSlot < m.outputs.length) :
    (g.putNode v m).WellFormed :=
  (h.insertNode hv hhandle hvalues hin hout).mark v

/-- The input that a link of a well-formed graph ends at. -/
theorem WellFormed.targetSlot_lt (h : g.WellFormed) {l : Link}
    (hl : l ∈ g.links) (hv : g.nodes.get? v = some n) (ht : l.target = v) :
    l.targetSlot < n.inputs.length := by
  obtain ⟨k, hk, hlt⟩ := (h.links l hl).input
  rw [ht, hv] at hk
  cases hk
  exact hlt

/-- The output that a link of a well-formed graph starts at. -/
theorem WellFormed.sourceSlot_lt (h : g.WellFormed) {l : Link}
    (hl : l ∈ g.links) (hv : g.nodes.get? v = some n) (hs : l.source = v) :
    l.sourceSlot < n.outputs.length := by
  obtain ⟨k, hk, hlt⟩ := (h.links l hl).output
  rw [hs, hv] at hk
  cases hk
  exact hlt

/-! ## Adding and removing nodes -/

/-- While handles are left, a new node gets one that no node has had. -/
theorem addNode_fst (g : Graph) (nodeType title : String)
    (ins outs : List Port) (room : g.lastHandle + 1 < handleLimit) :
    (g.addNode nodeType title ins outs).1 = g.lastHandle + 1 :=
  Nat.mod_eq_of_lt room

/-- The handle after the last one is new. -/
theorem WellFormed.get?_fresh (h : g.WellFormed) :
    g.nodes.get? (g.lastHandle + 1) = none := by
  cases hn : g.nodes.get? (g.lastHandle + 1) with
  | none => rfl
  | some n => exact absurd (h.bounded _ n hn) (Nat.not_succ_le_self _)

/-- The node that `addNode` stores. -/
def newNode (g : Graph) (nodeType title : String) (ins outs : List Port) :
    LiveNode :=
  { handle := g.lastHandle + 1
    nodeType := nodeType
    title := title
    inputs := ins
    outputs := outs
    values := List.replicate outs.length none }

/-- As long as handles are left, the one after the last is given. -/
theorem addNode_snd (g : Graph) (nodeType title : String)
    (ins outs : List Port) (room : g.lastHandle + 1 < handleLimit) :
    (g.addNode nodeType title ins outs).2
      = { g with
          lastHandle := g.lastHandle + 1
          nodes :=
            g.nodes.insert (g.lastHandle + 1)
              (g.newNode nodeType title ins outs) } := by
  unfold addNode newNode LiveNode.clearValues
  rw [Nat.mod_eq_of_lt room]

/-- A new node keeps a graph well-formed as long as handles are left. -/
theorem WellFormed.addNode (h : g.WellFormed) (nodeType title : String)
    (ins outs : List Port) (room : g.lastHandle + 1 < handleLimit) :
    (g.addNode nodeType title ins outs).2.WellFormed := by
  rw [addNode_snd _ _ _ _ _ room]
  have hfresh := h.get?_fresh
  -- a live node is not the new one
  have hold : ∀ u k, g.nodes.get? u = some k → u ≠ g.lastHandle + 1 := by
    intro u k hu heq
    rw [heq, hfresh] at hu
    cases hu
  constructor
  · intro u k hu
    rw [Table.get?_insert] at hu
    split at hu
    · rename_i heq
      cases hu
      exact heq.symm
    · exact h.handle u k hu
  · intro u k hu
    rw [Table.get?_insert] at hu
    split at hu
    · rename_i heq
      exact Nat.le_of_eq heq
    · exact Nat.le_succ_of_le (h.bounded u k hu)
  · exact room
  · intro u k hu
    rw [Table.get?_insert] at hu
    split at hu
    · cases hu
      simp [newNode]
    · exact h.values u k hu
  · intro l hl
    have hj := h.links l hl
    obtain ⟨s, hs, hslt⟩ := hj.output
    obtain ⟨t, ht, htlt⟩ := hj.input
    exact ⟨hj.apart,
      ⟨s, by simpa [Table.get?_insert, hold _ s hs] using hs, hslt⟩,
      ⟨t, by simpa [Table.get?_insert, hold _ t ht] using ht, htlt⟩⟩
  · exact h.single
  · intro u hu
    show (g.nodes.insert _ _).contains u = true
    rw [Table.contains_insert, Bool.or_eq_true]
    exact Or.inr (h.dirty u hu)

/-- Links that do not touch a node stay. -/
theorem WellFormed.dropLinks (h : g.WellFormed) (v : Handle) :
    (g.dropLinks v).WellFormed :=
  h.withLinks (fun l hl => h.links l (List.mem_filter.mp hl).1)
    (h.single.filter _)

/-- Dropped are exactly the links of the node. -/
theorem mem_dropLinks_iff {l : Link} :
    l ∈ (g.dropLinks v).links ↔
      l ∈ g.links ∧ l.source ≠ v ∧ l.target ≠ v := by
  simp [Graph.dropLinks, Link.touches]

/-- A node that goes takes its links with it, so the others still fit. -/
theorem WellFormed.removeNode (h : g.WellFormed) (v : Handle) :
    (g.removeNode v).2.WellFormed := by
  unfold Graph.removeNode
  split
  · have hd := h.dropLinks v
    constructor
    · intro u k hu
      rw [Table.get?_erase] at hu
      split at hu
      · cases hu
      · exact h.handle u k hu
    · intro u k hu
      rw [Table.get?_erase] at hu
      split at hu
      · cases hu
      · exact h.bounded u k hu
    · exact h.lastHandle
    · intro u k hu
      rw [Table.get?_erase] at hu
      split at hu
      · cases hu
      · exact h.values u k hu
    · -- a link that is left touches the node at neither end
      intro l hl
      obtain ⟨-, hs, ht⟩ := mem_dropLinks_iff.mp hl
      have hj := hd.links l hl
      refine ⟨hj.apart, ?_, ?_⟩
      · simpa [Table.get?_erase, hs] using hj.output
      · simpa [Table.get?_erase, ht] using hj.input
    · exact hd.single
    · intro u hu
      obtain ⟨k, hk⟩ := Table.contains_iff.mp hu
      rw [Table.get?_erase] at hk
      split at hk
      · cases hk
      · rename_i huv
        obtain ⟨m, hm⟩ := contains_iff.mp
          (h.dirty u (Table.contains_iff.mpr ⟨k, hk⟩))
        exact contains_iff.mpr ⟨m, by simp [Table.get?_erase, huv, hm]⟩
  · exact h

/-! ## Changing ports and values -/

/-- A new title keeps a graph well-formed. -/
theorem WellFormed.setTitle {title : String} (h : g.WellFormed)
    (hg : g.setTitle v title = .ok g') : g'.WellFormed := by
  obtain ⟨n, hv, rfl⟩ := setTitle_eq_ok_iff.mp hg
  exact h.putNode hv rfl (h.values v n hv)
    (fun l hl => h.targetSlot_lt (n := n) hl hv)
    (fun l hl => h.sourceSlot_lt (n := n) hl hv)

/-- New ports keep a graph well-formed, as no link of the node is left. -/
theorem WellFormed.replacePorts {ins outs : List Port} (h : g.WellFormed)
    (hg : g.replacePorts v ins outs = .ok g') : g'.WellFormed := by
  obtain ⟨n, hv, rfl⟩ := replacePorts_eq_ok_iff.mp hg
  refine (h.dropLinks v).putNode (n := n) hv rfl ?_ ?_ ?_
  · simp [LiveNode.clearValues]
  · intro l hl ht
    exact absurd ht (mem_dropLinks_iff.mp hl).2.2
  · intro l hl hs
    exact absurd hs (mem_dropLinks_iff.mp hl).2.1

/-- A new input keeps a graph well-formed, as it comes after those that have
    links. -/
theorem WellFormed.addInput {p : Port} (h : g.WellFormed)
    (hg : g.addInput v p = .ok g') : g'.WellFormed := by
  obtain ⟨n, hv, rfl⟩ := addInput_eq_ok_iff.mp hg
  refine h.putNode hv rfl (h.values v n hv) (fun l hl ht => ?_)
    (fun l hl => h.sourceSlot_lt (n := n) hl hv)
  have := h.targetSlot_lt hl hv ht
  simp only [List.length_append, List.length_singleton]
  omega

/-- A value on an output keeps a graph well-formed. -/
theorem WellFormed.setOutputData {index : Nat} {value : Option Json}
    (h : g.WellFormed) (hg : g.setOutputData v index value = .ok g') :
    g'.WellFormed := by
  obtain ⟨n, hv, -, rfl⟩ := setOutputData_eq_ok_iff.mp hg
  exact h.insertNode hv rfl (by simpa using h.values v n hv)
    (fun l hl => h.targetSlot_lt (n := n) hl hv)
    (fun l hl => h.sourceSlot_lt (n := n) hl hv)

/-! ## Links -/

/-- A new link keeps a graph well-formed, as it replaces the one that entered
    its input. -/
theorem WellFormed.connect {s t : Handle} {i j : Nat} (h : g.WellFormed)
    (hg : g.connect s i t j = .ok g') : g'.WellFormed := by
  obtain ⟨hst, hs, ht, rfl⟩ := connect_eq_ok_iff.mp hg
  refine h.withLinks (fun l hl => ?_) ?_
  · rcases List.mem_append.mp hl with hl | hl
    · exact h.links l (List.mem_filter.mp hl).1
    · rw [List.mem_singleton.mp hl]
      exact ⟨hst, hs, ht⟩
  · refine List.pairwise_append.mpr
      ⟨h.single.filter _, List.pairwise_singleton _ _, ?_⟩
    -- the new link has taken the place of any that entered its input
    intro l hl m hm hlm
    rw [List.mem_singleton.mp hm] at hlm
    have hkept := (List.mem_filter.mp hl).2
    simp [Link.enters, hlm.1, hlm.2] at hkept

/-- Moving a link up past a gap changes only where it ends. -/
theorem closeGap_eq (l : Link) (v : Handle) (slot : Nat) :
    l.closeGap v slot
      = { l with
          targetSlot :=
            if l.target = v ∧ slot < l.targetSlot then l.targetSlot - 1
            else l.targetSlot } := by
  unfold Link.closeGap
  split <;> rfl

/-- Links still fit once those behind a removed input have moved up. -/
theorem WellFormed.closeSlot (h : g.WellFormed) (v : Handle) (slot : Nat) :
    (g.closeSlot v slot).WellFormed := by
  refine h.withLinks (fun l hl => ?_) ?_
  · obtain ⟨m, hm, rfl⟩ := List.mem_map.mp hl
    have hj := h.links m (List.mem_filter.mp hm).1
    rw [closeGap_eq]
    refine ⟨hj.apart, hj.output, ?_⟩
    obtain ⟨k, hk, hlt⟩ := hj.input
    refine ⟨k, hk, ?_⟩
    show (if m.target = v ∧ slot < m.targetSlot then m.targetSlot - 1
      else m.targetSlot) < k.inputs.length
    split <;> omega
  · -- links that are left do not enter the slot, so none moves onto another
    rw [List.pairwise_map, List.pairwise_filter]
    refine h.single.imp (fun {l m} hlm hl hm => ?_)
    rintro ⟨ht, hs⟩
    simp only [closeGap_eq] at ht hs
    simp only [Link.enters, Bool.not_eq_true', Bool.and_eq_false_iff,
      beq_eq_false_iff_ne] at hl hm
    have hne : l.targetSlot ≠ m.targetSlot := fun hs => hlm ⟨ht, hs⟩
    rw [ht] at hs hl
    by_cases hv : m.target = v
    · simp only [hv, true_and, ne_eq, not_true_eq_false, false_or]
        at hs hl hm
      split at hs <;> split at hs <;> omega
    · simp only [hv, false_and, if_false] at hs
      exact hne hs

/-- An input that goes keeps a graph well-formed. -/
theorem WellFormed.removeInput {name : String} {b : Bool} (h : g.WellFormed)
    (hg : g.removeInput v name = .ok (b, g')) : g'.WellFormed := by
  obtain ⟨n, hv, ⟨-, -, rfl⟩ | ⟨slot, hslot, -, rfl⟩⟩ :=
    removeInput_eq_ok_iff.mp hg
  · exact h
  · have hslt : slot < n.inputs.length :=
      (List.findIdx?_eq_some_iff_findIdx_eq.mp hslot).1
    refine (h.closeSlot v slot).putNode (n := n) hv rfl (h.values v n hv) ?_
      (fun l hl => (h.closeSlot v slot).sourceSlot_lt (n := n) hl hv)
    intro l hl ht
    obtain ⟨m, hm, rfl⟩ := List.mem_map.mp hl
    obtain ⟨hmem, henters⟩ := List.mem_filter.mp hm
    rw [closeGap_eq] at ht ⊢
    have hlt := h.targetSlot_lt hmem hv ht
    -- a link into the slot itself is gone, so the others fit once moved up
    have hne : m.targetSlot ≠ slot := by
      have ht' : m.target = v := ht
      simpa [Link.enters, ht'] using henters
    show (if m.target = v ∧ slot < m.targetSlot then m.targetSlot - 1
      else m.targetSlot) < (n.inputs.eraseIdx slot).length
    rw [List.length_eraseIdx_of_lt hslt]
    by_cases hgt : slot < m.targetSlot
    · rw [if_pos ⟨ht, hgt⟩]
      omega
    · rw [if_neg (fun hc => hgt hc.2)]
      omega

end Graph
end NodeFlow
