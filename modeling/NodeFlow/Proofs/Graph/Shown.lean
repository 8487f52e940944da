import NodeFlow.Proofs.Execution.Inputs
import NodeFlow.Proofs.Graph.Ports

/-! # The places of a graph and the ports they stand for

    A graph shows a port graph if each of its places stands for a port, and a
    link between two places for one between their ports (`Shows`).  Then what
    is read at a place is what the output holds to which the input there is
    linked (`Shows.inputData?_eq`).  A node that is added brings new ports,
    and one that is removed takes its ports and their links with it. -/

namespace NodeFlow

/-- Whether a node of a port graph is a live node without its values. -/
structure PortGraph.Node.Of (m : PortGraph.Node) (n : LiveNode) : Prop where
  /-- The inputs have the same names. -/
  names : m.inputs.map PortGraph.Input.name = n.inputs.map Port.name
  /-- There are as many outputs. -/
  outputs : m.outputs.length = n.outputs.length

theorem PortGraph.Node.Of.inputs_length {m : PortGraph.Node} {n : LiveNode}
    (h : m.Of n) : m.inputs.length = n.inputs.length := by
  simpa using congrArg List.length h.names

/-- The first input of a name stands at the same place. -/
theorem PortGraph.Node.Of.findIdx? {m : PortGraph.Node} {n : LiveNode}
    (h : m.Of n) (name : String) :
    m.inputs.findIdx? (fun q => q.name == name)
      = n.inputs.findIdx? (fun p => p.name == name) := by
  have heq := congrArg (List.findIdx? (fun s => s == name)) h.names
  rwa [List.findIdx?_map, List.findIdx?_map] at heq

/-- Whether every port at a place has an identity of its own, and the next one
    is new. -/
structure Numbered (port? : Handle → Nat → Option Nat) (next : Nat) :
    Prop where
  /-- A port stands at one place. -/
  once : ∀ {u v i j p}, port? u i = some p → port? v j = some p →
    u = v ∧ i = j
  /-- Identities are counted. -/
  lt : ∀ {v i p}, port? v i = some p → p < next

namespace Numbered

variable {port? port?' : Handle → Nat → Option Nat} {next next' : Nat}

/-- New ports get new identities. -/
theorem extend (h : Numbered port? next) (hle : next ≤ next')
    (hold : ∀ {u i p}, port?' u i = some p →
      port? u i = some p ∨ next ≤ p ∧ p < next')
    (hnew : ∀ {u v i j p}, next ≤ p → port?' u i = some p →
      port?' v j = some p → u = v ∧ i = j) : Numbered port?' next' where
  once hp hq := by
    rcases hold hp with hp' | ⟨hge, -⟩
    · rcases hold hq with hq' | ⟨hge, -⟩
      · exact h.once hp' hq'
      · exact absurd (h.lt hp') (Nat.not_lt.mpr hge)
    · exact hnew hge hp hq
  lt hp := by
    rcases hold hp with hp | ⟨-, hlt⟩
    · exact Nat.lt_of_lt_of_le (h.lt hp) hle
    · exact hlt

/-- The ports that are left keep their identities. -/
theorem sub (h : Numbered port? next)
    (hsub : ∀ {u i p}, port?' u i = some p → port? u i = some p) :
    Numbered port?' next where
  once hp hq := h.once (hsub hp) (hsub hq)
  lt hp := h.lt (hsub hp)

end Numbered

namespace Graph

open PortGraph (Node Input newPorts input?_eq_some_iff output?_eq_some_iff
  input?_setNode output?_setNode input?_remove output?_remove)

/-- Whether the places of a graph stand for the ports of a port graph. -/
structure Shows (g : Graph) (a : PortGraph) : Prop where
  /-- The same handle has been given last. -/
  lastHandle : a.lastHandle = g.lastHandle
  /-- The nodes are the same. -/
  nodes : ∀ v, Option.Rel Node.Of (a.nodes v) (g.nodes.get? v)
  /-- Inputs have identities. -/
  inputs : Numbered a.input? a.nextPort
  /-- Outputs have identities. -/
  outputs : Numbered a.output? a.nextPort
  /-- A new port is not linked and holds nothing. -/
  fresh : ∀ {p}, a.nextPort ≤ p → a.source p = none ∧ a.value p = none
  /-- The input at a place is linked to the output at the place where a link
      to that place starts. -/
  source : ∀ {v i p o}, a.input? v i = some p → (a.source p = some o ↔
    ∃ l ∈ g.links, l.target = v ∧ l.targetSlot = i
      ∧ a.output? l.source l.sourceSlot = some o)
  /-- The output at a place holds what that place holds. -/
  value : ∀ {v i o}, a.output? v i = some o → a.value o = g.outputData? v i

variable {g g' : Graph} {a : PortGraph} {u v : Handle} {i j : Nat}
  {n n' : LiveNode} {m : Node} {p o : Nat}

/-- At the start there is nothing on either side. -/
theorem shows_empty : ({} : Graph).Shows {} where
  lastHandle := rfl
  nodes _ := Option.Rel.none
  inputs := ⟨fun hp => by simp [PortGraph.input?] at hp,
    fun hp => by simp [PortGraph.input?] at hp⟩
  outputs := ⟨fun ho => by simp [PortGraph.output?] at ho,
    fun ho => by simp [PortGraph.output?] at ho⟩
  fresh _ := ⟨rfl, rfl⟩
  source hp := by simp [PortGraph.input?] at hp
  value ho := by simp [PortGraph.output?] at ho

/-! ## Places -/

theorem Shows.of_live (h : g.Shows a) (hv : g.nodes.get? v = some n) :
    ∃ m, a.nodes v = some m ∧ m.Of n := by
  have hrel := h.nodes v
  rw [hv] at hrel
  cases hm : a.nodes v with
  | none =>
      rw [hm] at hrel
      cases hrel
  | some m =>
      rw [hm] at hrel
      cases hrel with
      | some hof => exact ⟨m, rfl, hof⟩

theorem Shows.of_dead (h : g.Shows a) (hv : g.nodes.get? v = none) :
    a.nodes v = none := by
  have hrel := h.nodes v
  rw [hv] at hrel
  cases hm : a.nodes v with
  | none => rfl
  | some m =>
      rw [hm] at hrel
      cases hrel

/-- One node changes in both. -/
theorem rel_insert {a' : PortGraph} {n' : LiveNode} {m' : Node}
    (h : ∀ v, Option.Rel Node.Of (a.nodes v) (g.nodes.get? v))
    (hm : a'.nodes v = some m') (hof : m'.Of n')
    (hothers : ∀ u, u ≠ v → a'.nodes u = a.nodes u) (u : Handle) :
    Option.Rel Node.Of (a'.nodes u) ((g.putNode v n').nodes.get? u) := by
  rw [putNode_nodes, Table.get?_insert]
  split
  · rename_i hu
    rw [hu, hm]
    exact Option.Rel.some hof
  · rename_i hu
    rw [hothers u hu]
    exact h u

/-- There is an identity for every place of an input. -/
theorem Shows.exists_input?_iff (h : g.Shows a) :
    (∃ p, a.input? v i = some p) ↔
      ∃ n, g.nodes.get? v = some n ∧ i < n.inputs.length := by
  constructor
  · rintro ⟨p, hp⟩
    obtain ⟨m, hm, q, hq, -⟩ := input?_eq_some_iff.mp hp
    cases hv : g.nodes.get? v with
    | none =>
        rw [h.of_dead hv] at hm
        cases hm
    | some n =>
        obtain ⟨m', hm', hof⟩ := h.of_live hv
        rw [hm] at hm'
        cases hm'
        exact ⟨n, rfl,
          hof.inputs_length ▸ (List.getElem?_eq_some_iff.mp hq).1⟩
  · rintro ⟨n, hv, hi⟩
    obtain ⟨m, hm, hof⟩ := h.of_live hv
    exact ⟨_, input?_eq_some_iff.mpr ⟨m, hm, _,
      List.getElem?_eq_getElem (hof.inputs_length ▸ hi), rfl⟩⟩

/-- There is an identity for every place of an output. -/
theorem Shows.exists_output?_iff (h : g.Shows a) :
    (∃ o, a.output? v i = some o) ↔
      ∃ n, g.nodes.get? v = some n ∧ i < n.outputs.length := by
  constructor
  · rintro ⟨o, ho⟩
    obtain ⟨m, hm, hget⟩ := output?_eq_some_iff.mp ho
    cases hv : g.nodes.get? v with
    | none =>
        rw [h.of_dead hv] at hm
        cases hm
    | some n =>
        obtain ⟨m', hm', hof⟩ := h.of_live hv
        rw [hm] at hm'
        cases hm'
        exact ⟨n, rfl,
          hof.outputs ▸ (List.getElem?_eq_some_iff.mp hget).1⟩
  · rintro ⟨n, hv, hi⟩
    obtain ⟨m, hm, hof⟩ := h.of_live hv
    exact ⟨_, output?_eq_some_iff.mpr
      ⟨m, hm, List.getElem?_eq_getElem (hof.outputs ▸ hi)⟩⟩

theorem outputData?_congr (hv : g'.nodes.get? v = g.nodes.get? v) :
    g'.outputData? v i = g.outputData? v i := by
  unfold outputData?
  rw [hv]

/-- Other ports do not change what outputs hold. -/
theorem outputData?_putNode {n' : LiveNode} (hv : g.nodes.get? v = some n)
    (hvalues : n'.values = n.values) :
    (g.putNode v n').outputData? u i = g.outputData? u i := by
  unfold outputData?
  rw [putNode_nodes, Table.get?_insert]
  split
  · rename_i hu
    rw [hu, hv]
    simp [hvalues]
  · rfl

/-- What is read at a place is what reaches the input that stands there. -/
theorem Shows.inputData?_eq (h : g.Shows a) (hw : g.WellFormed) (v : Handle)
    (i : Nat) : g.inputData? v i = (a.input? v i).bind a.read? := by
  refine Option.ext (fun value => ?_)
  rw [hw.inputData?_eq_some_iff]
  constructor
  · rintro ⟨l, hl, rfl, rfl, hvalue⟩
    obtain ⟨o, ho⟩ := h.exists_output?_iff.mpr (hw.links l hl).output
    obtain ⟨p, hp⟩ := h.exists_input?_iff.mpr (hw.links l hl).input
    have hsource : a.source p = some o :=
      (h.source hp).mpr ⟨l, hl, rfl, rfl, ho⟩
    rw [hp, Option.bind_some, PortGraph.read?, hsource, Option.bind_some,
      h.value ho]
    exact hvalue
  · intro hread
    obtain ⟨p, hp, hread⟩ := Option.bind_eq_some_iff.mp hread
    obtain ⟨o, hsource, hvalue⟩ := Option.bind_eq_some_iff.mp hread
    obtain ⟨l, hl, htarget, hslot, ho⟩ := (h.source hp).mp hsource
    rw [h.value ho] at hvalue
    exact ⟨l, hl, htarget, hslot, hvalue⟩

/-- A graph shows what another one shows if handles, links, names, numbers of
    outputs and values are the same. -/
theorem Shows.congr (h : g.Shows a) (hlast : g'.lastHandle = g.lastHandle)
    (hlinks : g'.links = g.links)
    (hnodes : ∀ v, Option.Rel Node.Of (a.nodes v) (g'.nodes.get? v))
    (hvalues : ∀ v i, g'.outputData? v i = g.outputData? v i) :
    g'.Shows a where
  lastHandle := h.lastHandle.trans hlast.symm
  nodes := hnodes
  inputs := h.inputs
  outputs := h.outputs
  fresh := h.fresh
  source hp := by
    rw [hlinks]
    exact h.source hp
  value ho := (h.value ho).trans (hvalues _ _).symm

/-! ## Removing and placing nodes -/

/-- Which node a port belongs to. -/
theorem Shows.mem_inputs_iff (h : g.Shows a) (hm : a.nodes v = some m)
    (hp : a.input? u i = some p) : p ∈ m.inputs.map Input.id ↔ u = v := by
  constructor
  · intro hmem
    obtain ⟨q, hq, rfl⟩ := List.mem_map.mp hmem
    obtain ⟨k, hk⟩ := List.mem_iff_getElem?.mp hq
    exact (h.inputs.once hp
      (input?_eq_some_iff.mpr ⟨m, hm, q, hk, rfl⟩)).1
  · rintro rfl
    obtain ⟨m', hm', q, hq, rfl⟩ := input?_eq_some_iff.mp hp
    rw [hm] at hm'
    cases hm'
    exact List.mem_map.mpr ⟨q, List.mem_of_getElem? hq, rfl⟩

theorem Shows.mem_outputs_iff (h : g.Shows a) (hm : a.nodes v = some m)
    (ho : a.output? u i = some o) : o ∈ m.outputs ↔ u = v := by
  constructor
  · intro hmem
    obtain ⟨k, hk⟩ := List.mem_iff_getElem?.mp hmem
    exact (h.outputs.once ho (output?_eq_some_iff.mpr ⟨m, hm, hk⟩)).1
  · rintro rfl
    obtain ⟨m', hm', hget⟩ := output?_eq_some_iff.mp ho
    rw [hm] at hm'
    cases hm'
    exact List.mem_of_getElem? hget

/-- With a node its ports and their links go. -/
theorem Shows.remove (h : g.Shows a) (v : Handle) :
    (g.removeNode v).2.Shows (a.remove v) := by
  have hin : ∀ {u i p}, (a.remove v).input? u i = some p →
      u ≠ v ∧ a.input? u i = some p := by
    intro u i p hp
    rw [input?_remove] at hp
    split at hp
    · cases hp
    · rename_i hu
      exact ⟨hu, hp⟩
  have hout : ∀ {u i o}, (a.remove v).output? u i = some o →
      u ≠ v ∧ a.output? u i = some o := by
    intro u i o ho
    rw [output?_remove] at ho
    split at ho
    · cases ho
    · rename_i hu
      exact ⟨hu, ho⟩
  unfold Graph.removeNode
  cases hv : g.nodes.get? v with
  | none =>
      have hno : ¬ g.contains v = true := by
        rw [contains_iff, hv]
        rintro ⟨n, hn⟩
        cases hn
      rw [if_neg hno, PortGraph.remove, h.of_dead hv]
      exact h
  | some n =>
      obtain ⟨m, hm, -⟩ := h.of_live hv
      have hremove : a.remove v = (a.unlink m).setNode v none := by
        rw [PortGraph.remove, hm]
      rw [if_pos (contains_iff.mpr ⟨n, hv⟩)]
      constructor
      · rw [hremove]
        exact h.lastHandle
      · intro u
        rw [hremove, Table.get?_erase]
        show Option.Rel Node.Of (if u = v then none else a.nodes u) _
        split
        · exact Option.Rel.none
        · exact h.nodes u
      · rw [show (a.remove v).nextPort = a.nextPort by rw [hremove]; rfl]
        exact h.inputs.sub (fun hp => (hin hp).2)
      · rw [show (a.remove v).nextPort = a.nextPort by rw [hremove]; rfl]
        exact h.outputs.sub (fun ho => (hout ho).2)
      · intro p hp
        rw [hremove] at hp ⊢
        obtain ⟨hnone, hempty⟩ := h.fresh (p := p) hp
        refine ⟨?_, hempty⟩
        show (if _ then _ else (a.source p).filter _) = none
        rw [hnone]
        split <;> rfl
      · -- a link that is left touches no port of the node
        intro u i p o hp
        obtain ⟨huv, hp⟩ := hin hp
        have hsource : (a.remove v).source p
            = (a.source p).filter (fun o => o ∉ m.outputs) := by
          rw [hremove]
          exact if_neg (fun hmem => huv ((h.mem_inputs_iff hm hp).mp hmem))
        rw [hsource, Option.filter_eq_some_iff, h.source hp]
        constructor
        · rintro ⟨⟨l, hl, htarget, hslot, ho⟩, hnot⟩
          have hs : l.source ≠ v := fun hs =>
            of_decide_eq_true hnot ((h.mem_outputs_iff hm ho).mpr hs)
          refine ⟨l, mem_dropLinks_iff.mpr ⟨hl, hs, htarget ▸ huv⟩, htarget,
            hslot, ?_⟩
          rw [output?_remove, if_neg hs]
          exact ho
        · rintro ⟨l, hl, htarget, hslot, ho⟩
          obtain ⟨hl, -, -⟩ := mem_dropLinks_iff.mp hl
          obtain ⟨hs, ho⟩ := hout ho
          exact ⟨⟨l, hl, htarget, hslot, ho⟩,
            decide_eq_true (fun hmem => hs ((h.mem_outputs_iff hm ho).mp hmem))⟩
      · intro u i o ho
        obtain ⟨huv, ho⟩ := hout ho
        rw [hremove]
        refine (h.value ho).trans (outputData?_congr ?_).symm
        show (g.nodes.erase v).get? u = g.nodes.get? u
        rw [Table.get?_erase, if_neg huv]

/-- The ports of a new node are counted from the first. -/
theorem newPorts_inputs (first : Nat) (ins outs : List Port) :
    (newPorts first ins outs).inputs[i]?.map Input.id = some p ↔
      i < ins.length ∧ p = first + i := by
  unfold newPorts
  rw [List.getElem?_mapIdx]
  by_cases hi : i < ins.length <;> simp [hi, eq_comm]

theorem newPorts_outputs (first : Nat) (ins outs : List Port) :
    (newPorts first ins outs).outputs[i]? = some o ↔
      i < outs.length ∧ o = first + ins.length + i := by
  unfold newPorts
  rw [List.getElem?_mapIdx]
  by_cases hi : i < outs.length <;> simp [hi, eq_comm]

/-- A new node has one identity for each of its ports. -/
theorem newPorts_of (first : Nat) (n : LiveNode) :
    (newPorts first n.inputs n.outputs).Of n where
  names := by
    refine List.ext_getElem? (fun i => ?_)
    simp only [newPorts, List.getElem?_map, List.getElem?_mapIdx,
      Option.map_map]
    rfl
  outputs := by simp [newPorts]

/-- A graph with one more node, which is new. -/
structure Placed (g g' : Graph) (v : Handle) (n : LiveNode) : Prop where
  /-- There was no such node. -/
  dead : g.nodes.get? v = none
  /-- Now there is. -/
  live : g'.nodes.get? v = some n
  /-- It holds nothing. -/
  values : ∀ i, g'.outputData? v i = none
  /-- Other nodes are left alone. -/
  others : ∀ u, u ≠ v → g'.nodes.get? u = g.nodes.get? u
  /-- So are links. -/
  links : g'.links = g.links
  /-- So is the last handle. -/
  lastHandle : g'.lastHandle = g.lastHandle

/-- A new node has new ports. -/
theorem Shows.place (h : g.Shows a)
    (hjoin : ∀ l ∈ g.links, l.Joins g.nodes) (hp : Placed g g' v n) :
    g'.Shows (a.place v n.inputs n.outputs) := by
  -- a port is one of the new ones, or stands where it stood on another node
  have hin : ∀ {u i p}, (a.place v n.inputs n.outputs).input? u i = some p →
      (u = v ∧ i < n.inputs.length ∧ p = a.nextPort + i)
        ∨ u ≠ v ∧ a.input? u i = some p := by
    intro u i p hin
    change (a.setNode v (some (newPorts a.nextPort n.inputs n.outputs))).input?
      u i = some p at hin
    rw [input?_setNode] at hin
    split at hin
    · rename_i hu
      exact Or.inl ⟨hu, (newPorts_inputs _ _ _).mp hin⟩
    · rename_i hu
      exact Or.inr ⟨hu, hin⟩
  have hout : ∀ {u i o}, (a.place v n.inputs n.outputs).output? u i = some o →
      (u = v ∧ i < n.outputs.length
          ∧ o = a.nextPort + n.inputs.length + i)
        ∨ u ≠ v ∧ a.output? u i = some o := by
    intro u i o hout
    change (a.setNode v (some (newPorts a.nextPort n.inputs
      n.outputs))).output? u i = some o at hout
    rw [output?_setNode] at hout
    split at hout
    · rename_i hu
      exact Or.inl ⟨hu, (newPorts_outputs _ _ _).mp hout⟩
    · rename_i hu
      exact Or.inr ⟨hu, hout⟩
  have hnext : (a.place v n.inputs n.outputs).nextPort
      = a.nextPort + n.inputs.length + n.outputs.length := rfl
  constructor
  · exact h.lastHandle.trans hp.lastHandle.symm
  · intro u
    show Option.Rel Node.Of (if u = v then _ else a.nodes u) _
    split
    · rename_i hu
      rw [hu, hp.live]
      exact Option.Rel.some (newPorts_of a.nextPort n)
    · rename_i hu
      rw [hp.others u hu]
      exact h.nodes u
  · refine h.inputs.extend (by omega) (fun hu => ?_) (fun hge hu hw => ?_)
    · rcases hin hu with ⟨-, hi, rfl⟩ | ⟨-, hu⟩
      · exact Or.inr ⟨by omega, by omega⟩
      · exact Or.inl hu
    · rcases hin hu with ⟨rfl, -, rfl⟩ | ⟨-, hu⟩
      · rcases hin hw with ⟨rfl, -, heq⟩ | ⟨-, hw⟩
        · exact ⟨rfl, by omega⟩
        · exact absurd (h.inputs.lt hw) (Nat.not_lt.mpr hge)
      · exact absurd (h.inputs.lt hu) (Nat.not_lt.mpr hge)
  · refine h.outputs.extend (by omega) (fun hu => ?_) (fun hge hu hw => ?_)
    · rcases hout hu with ⟨-, hi, rfl⟩ | ⟨-, hu⟩
      · exact Or.inr ⟨by omega, by omega⟩
      · exact Or.inl hu
    · rcases hout hu with ⟨rfl, -, rfl⟩ | ⟨-, hu⟩
      · rcases hout hw with ⟨rfl, -, heq⟩ | ⟨-, hw⟩
        · exact ⟨rfl, by omega⟩
        · exact absurd (h.outputs.lt hw) (Nat.not_lt.mpr hge)
      · exact absurd (h.outputs.lt hu) (Nat.not_lt.mpr hge)
  · intro p hle
    exact h.fresh (by omega)
  · -- no link touches the new node, since there was none to link
    intro u i p o hu
    rw [hp.links]
    rcases hin hu with ⟨rfl, -, rfl⟩ | ⟨hne, hu⟩
    · refine iff_of_false (fun ho => ?_) ?_
      · have hnone := (h.fresh (p := a.nextPort + i) (by omega)).1
        change a.source _ = some o at ho
        rw [hnone] at ho
        cases ho
      · rintro ⟨l, hl, htarget, -⟩
        obtain ⟨t, ht, -⟩ := (hjoin l hl).input
        rw [htarget, hp.dead] at ht
        cases ht
    · show a.source p = some o ↔ _
      rw [h.source hu]
      refine exists_congr (fun l => and_congr_right (fun hl => ?_))
      have hs : l.source ≠ v := by
        intro hs
        obtain ⟨s, hlive, -⟩ := (hjoin l hl).output
        rw [hs, hp.dead] at hlive
        cases hlive
      show _ ↔ _ ∧ _ ∧ (a.setNode v (some (newPorts a.nextPort n.inputs
        n.outputs))).output? l.source l.sourceSlot = some o
      rw [output?_setNode, if_neg hs]
  · intro u i o hu
    show a.value o = g'.outputData? u i
    rcases hout hu with ⟨rfl, -, rfl⟩ | ⟨hne, hu⟩
    · rw [hp.values i]
      exact (h.fresh (by omega)).2
    · rw [h.value hu, outputData?_congr (hp.others u hne)]

end Graph
end NodeFlow
