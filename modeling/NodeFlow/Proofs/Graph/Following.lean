import Mathlib.Data.List.InsertIdx
import NodeFlow.Proofs.Graph.Shown

/-! # Links follow their ports

    Whatever is done to a graph, its places stand for the ports of the port
    graph to which the same is done (`Followed.shows`), wherever these stand.
    So links follow their ports, and what is read at an input does not depend
    on where it has moved (`Reached.links_follow_ports`). -/

namespace NodeFlow.Graph

open PortGraph (Node Input input?_eq_some_iff input?_setNode output?_setNode)

variable {g g' : Graph} {a : PortGraph} {u v : Handle} {i j : Nat}
  {n : LiveNode} {m : Node}

/-! ## Inputs come and go -/

/-- A new input is new there too, and what was linked stays linked. -/
theorem Shows.addInput {port : Port} (h : g.Shows a) (hw : g.WellFormed)
    (hg : g.addInput v port = .ok g') : g'.Shows (a.addInput v port.name) := by
  obtain ⟨n, hv, rfl⟩ := addInput_eq_ok_iff.mp hg
  obtain ⟨m, hm, hof⟩ := h.of_live hv
  have hadd : a.addInput v port.name
      = { a.setNode v
            (some { m with
              inputs := m.inputs ++ [⟨a.nextPort, port.name⟩] }) with
          nextPort := a.nextPort + 1 } := by
    rw [PortGraph.addInput, hm]
  rw [hadd]
  have hin : ∀ {u i p}, (a.setNode v (some { m with
      inputs := m.inputs ++ [⟨a.nextPort, port.name⟩] })).input? u i = some p →
      a.input? u i = some p
        ∨ u = v ∧ i = n.inputs.length ∧ p = a.nextPort := by
    intro u i p hp
    rw [input?_setNode] at hp
    split at hp
    · rename_i hu
      subst hu
      obtain ⟨q, hq, rfl⟩ := Option.map_eq_some_iff.mp hp
      change (m.inputs ++ [⟨a.nextPort, port.name⟩])[i]? = some q at hq
      rw [List.getElem?_append] at hq
      split at hq
      · exact Or.inl (input?_eq_some_iff.mpr ⟨m, hm, q, hq, rfl⟩)
      · obtain ⟨hlt, rfl⟩ := List.getElem?_eq_some_iff.mp hq
        rw [List.length_singleton] at hlt
        have hlength := hof.inputs_length
        exact Or.inr ⟨rfl, by omega, by simp⟩
    · exact Or.inl hp
  have hout : ∀ u i, (a.setNode v (some { m with
      inputs := m.inputs ++ [⟨a.nextPort, port.name⟩] })).output? u i
        = a.output? u i := by
    intro u i
    rw [output?_setNode]
    split
    · rename_i hu
      rw [hu, PortGraph.output?, hm]
      rfl
    · rfl
  constructor
  · rw [putNode_lastHandle]
    exact h.lastHandle
  · exact rel_insert h.nodes (if_pos rfl) ⟨by simp [hof.names], hof.outputs⟩
      (fun u hu => if_neg hu)
  · refine h.inputs.extend (Nat.le_succ _) (fun hu => ?_) (fun hge hu hw => ?_)
    · rcases hin hu with hu | ⟨-, -, rfl⟩
      · exact Or.inl hu
      · exact Or.inr ⟨Nat.le_refl _, Nat.lt_succ_self _⟩
    · rcases hin hu with hu | ⟨rfl, rfl, -⟩
      · exact absurd (h.inputs.lt hu) (Nat.not_lt.mpr hge)
      · rcases hin hw with hw | ⟨rfl, rfl, -⟩
        · exact absurd (h.inputs.lt hw) (Nat.not_lt.mpr hge)
        · exact ⟨rfl, rfl⟩
  · refine h.outputs.extend (Nat.le_succ _) (fun hu => Or.inl ?_)
      (fun hge hu _ => ?_)
    · exact (hout _ _).symm.trans hu
    · exact absurd (h.outputs.lt ((hout _ _).symm.trans hu))
        (Nat.not_lt.mpr hge)
  · intro p hle
    exact h.fresh (Nat.le_of_succ_le hle)
  · intro u i p o hu
    rw [putNode_links]
    show a.source p = some o ↔ ∃ l ∈ g.links, _ ∧ _ ∧
      (a.setNode v _).output? l.source l.sourceSlot = some o
    simp only [hout]
    rcases hin hu with hu | ⟨rfl, rfl, rfl⟩
    · exact h.source hu
    · -- no link ends behind the last input
      refine iff_of_false (fun ho => ?_) ?_
      · rw [(h.fresh (Nat.le_refl _)).1] at ho
        cases ho
      · rintro ⟨l, hl, htarget, hslot, -⟩
        exact absurd (hw.targetSlot_lt hl hv htarget)
          (Nat.not_lt.mpr (Nat.le_of_eq hslot.symm))
  · intro u i o hu
    rw [outputData?_putNode hv]
    · exact h.value ((hout _ _).symm.trans hu)
    · rfl

/-- Where the input stood that stands in place `i` now that the one in place
    `slot` is gone. -/
def movedFrom (slot i : Nat) : Nat := if i < slot then i else i + 1

/-- Links end where their inputs have moved. -/
theorem exists_closeSlot_iff {P : Handle → Nat → Prop} (g : Graph)
    (v : Handle) (slot : Nat) :
    (∃ l ∈ (g.closeSlot v slot).links, l.target = u ∧ l.targetSlot = i
        ∧ P l.source l.sourceSlot)
      ↔ ∃ l ∈ g.links, l.target = u
          ∧ l.targetSlot = (if u = v then movedFrom slot i else i)
          ∧ P l.source l.sourceSlot := by
  constructor
  · rintro ⟨l, hl, htarget, hslot, hp⟩
    obtain ⟨k, hk, rfl⟩ := List.mem_map.mp hl
    obtain ⟨hmem, henters⟩ := List.mem_filter.mp hk
    rw [closeGap_eq] at htarget hslot hp
    refine ⟨k, hmem, htarget, ?_, hp⟩
    change k.target = u at htarget
    change (if k.target = v ∧ slot < k.targetSlot then k.targetSlot - 1
      else k.targetSlot) = i at hslot
    by_cases hu : u = v
    · have hne : k.targetSlot ≠ slot := by
        simpa [Link.enters, htarget, hu] using henters
      rw [if_pos hu, movedFrom]
      simp only [htarget, hu, true_and] at hslot
      split at hslot <;> split <;> omega
    · rw [if_neg hu]
      simpa [htarget, hu] using hslot
  · rintro ⟨l, hl, htarget, hslot, hp⟩
    refine ⟨l.closeGap v slot, List.mem_map.mpr
      ⟨l, List.mem_filter.mpr ⟨hl, ?_⟩, rfl⟩, ?_⟩
    · -- an input that stands somewhere is not the one that is gone
      by_cases hu : u = v
      · rw [if_pos hu, movedFrom] at hslot
        have hne : l.targetSlot ≠ slot := by
          split at hslot <;> omega
        simp [Link.enters, hne]
      · have hne : l.target ≠ v := htarget ▸ hu
        simp [Link.enters, hne]
    · rw [closeGap_eq]
      refine ⟨htarget, ?_, hp⟩
      show (if l.target = v ∧ slot < l.targetSlot then l.targetSlot - 1
        else l.targetSlot) = i
      by_cases hu : u = v
      · rw [if_pos hu, movedFrom] at hslot
        simp only [htarget, hu, true_and]
        split at hslot <;> split <;> omega
      · rw [if_neg hu] at hslot
        simpa [htarget, hu] using hslot

/-- A port graph without the input in place `slot` of a node. -/
structure Without (a a' : PortGraph) (v : Handle) (slot : Nat) : Prop where
  /-- The same handle has been given last. -/
  lastHandle : a'.lastHandle = a.lastHandle
  /-- The node loses the input. -/
  node : ∀ m, a.nodes v = some m →
    a'.nodes v = some { m with inputs := m.inputs.eraseIdx slot }
  /-- Other nodes are left alone. -/
  others : ∀ u, u ≠ v → a'.nodes u = a.nodes u
  /-- Inputs behind it have moved. -/
  input? : ∀ u i, a'.input? u i
    = a.input? u (if u = v then movedFrom slot i else i)
  /-- Outputs stay. -/
  output? : ∀ u i, a'.output? u i = a.output? u i
  /-- Inputs that are left keep their links. -/
  source : ∀ {u i p}, a'.input? u i = some p → a'.source p = a.source p
  /-- No link is added. -/
  fresh : ∀ {p}, a.source p = none → a'.source p = none
  /-- Outputs hold what they held. -/
  value : a'.value = a.value
  /-- No identity is given. -/
  nextPort : a'.nextPort = a.nextPort

/-- What is left when an input is removed. -/
theorem Shows.without {name : String} {slot : Nat} (h : g.Shows a)
    (hm : a.nodes v = some m)
    (hslot : m.inputs.findIdx? (fun q => q.name == name) = some slot) :
    Without a (a.removeInput v name) v slot := by
  obtain ⟨hlt, hidx⟩ := List.findIdx?_eq_some_iff_findIdx_eq.mp hslot
  have hremove : a.removeInput v name
      = (a.setSource m.inputs[slot].id none).setNode v
          (some { m with inputs := m.inputs.eraseIdx slot }) := by
    have hfind : m.inputs.find? (fun q => q.name == name)
        = some m.inputs[slot] := by
      rw [List.find?_eq_getElem?_findIdx, hidx, List.getElem?_eq_getElem hlt]
    unfold PortGraph.removeInput
    simp only [hm, hfind, List.eraseP_eq_eraseIdx, hslot]
  rw [hremove]
  have hin : ∀ u i, ((a.setSource m.inputs[slot].id none).setNode v
      (some { m with inputs := m.inputs.eraseIdx slot })).input? u i
        = a.input? u (if u = v then movedFrom slot i else i) := by
    intro u i
    rw [input?_setNode]
    split
    · rename_i hu
      have hplace : a.input? v (movedFrom slot i)
          = m.inputs[movedFrom slot i]?.map Input.id := by
        unfold PortGraph.input?
        rw [hm]
        cases hq : m.inputs[movedFrom slot i]? <;> simp [hq]
      rw [hu, hplace, List.getElem?_eraseIdx, movedFrom]
      split <;> rfl
    · rfl
  refine ⟨rfl, fun m' hm' => ?_, fun u hu => if_neg hu, hin, fun u i => ?_,
    fun {u i p} hp => ?_, fun {p} hp => ?_, rfl, rfl⟩
  · rw [hm] at hm'
    cases hm'
    exact if_pos rfl
  · rw [output?_setNode]
    split
    · rename_i hu
      rw [hu, PortGraph.output?, hm]
      rfl
    · rfl
  · -- the input that is gone stood where no input is moved from
    rw [hin] at hp
    have hgone : a.input? v slot = some m.inputs[slot].id :=
      input?_eq_some_iff.mpr
        ⟨m, hm, _, List.getElem?_eq_getElem hlt, rfl⟩
    refine if_neg (fun hsame => ?_)
    obtain ⟨hu, hplace⟩ := h.inputs.once hp (hsame ▸ hgone)
    rw [if_pos hu, movedFrom] at hplace
    split at hplace <;> omega
  · show (if p = _ then none else a.source p) = none
    rw [hp]
    split <;> rfl

/-- An input that goes takes its link with it, and all other links follow
    their ports. -/
theorem Shows.removeInput {name : String} {b : Bool} (h : g.Shows a)
    (hg : g.removeInput v name = .ok (b, g')) :
    g'.Shows (a.removeInput v name) := by
  obtain ⟨n, hv, hcases⟩ := removeInput_eq_ok_iff.mp hg
  obtain ⟨m, hm, hof⟩ := h.of_live hv
  rw [← hof.findIdx?] at hcases
  obtain ⟨hnone, -, rfl⟩ | ⟨slot, hslot, -, rfl⟩ := hcases
  · -- no input has the name, and nothing changes
    have hfind : m.inputs.find? (fun q => q.name == name) = none := by
      rw [List.find?_eq_none]
      intro q hq
      rw [List.findIdx?_eq_none_iff.mp hnone q hq]
      exact Bool.false_ne_true
    unfold PortGraph.removeInput
    simp only [hm, hfind]
    exact h
  · -- the input is the same one that is removed there, and the others move up
    have hwithout := h.without hm hslot
    constructor
    · rw [hwithout.lastHandle, putNode_lastHandle]
      exact h.lastHandle
    · refine rel_insert (g := g.closeSlot v slot) h.nodes
        (hwithout.node m hm) ⟨?_, hof.outputs⟩ hwithout.others
      show (m.inputs.eraseIdx slot).map Input.name
        = (n.inputs.eraseIdx slot).map Port.name
      rw [← List.eraseIdx_map, ← List.eraseIdx_map, hof.names]
    · -- an input has moved from one place only
      refine ⟨fun {u w i j p} hu hw => ?_, fun {u i p} hu => ?_⟩
      · rw [hwithout.input?] at hu hw
        obtain ⟨rfl, hij⟩ := h.inputs.once hu hw
        refine ⟨rfl, ?_⟩
        unfold movedFrom at hij
        split at hij
        · split at hij <;> split at hij <;> omega
        · exact hij
      · rw [hwithout.input?] at hu
        rw [hwithout.nextPort]
        exact h.inputs.lt hu
    · rw [hwithout.nextPort]
      exact h.outputs.sub (fun ho => (hwithout.output? _ _).symm.trans ho)
    · intro p hp
      rw [hwithout.nextPort] at hp
      obtain ⟨hnone, hempty⟩ := h.fresh hp
      exact ⟨hwithout.fresh hnone, by rw [hwithout.value]; exact hempty⟩
    · -- a link follows its input to where that stands now
      intro u i p o hp
      have hold := hp
      rw [hwithout.input?] at hold
      rw [hwithout.source hp, h.source hold, putNode_links]
      simp only [hwithout.output?]
      exact (exists_closeSlot_iff
        (P := fun s k => a.output? s k = some o) g v slot).symm
    · intro u i o ho
      rw [hwithout.output?] at ho
      rw [hwithout.value, outputData?_putNode (g := g.closeSlot v slot) hv]
      · exact h.value ho
      · rfl

/-! ## Links and values -/

/-- A link is made between the ports that stand at the two places. -/
theorem Shows.connect {s t : Handle} (h : g.Shows a)
    (hg : g.connect s i t j = .ok g') :
    g'.Shows (a.perform (.connect s i t j)) := by
  obtain ⟨hst, hs, ht, rfl⟩ := connect_eq_ok_iff.mp hg
  obtain ⟨o, ho⟩ := h.exists_output?_iff.mpr hs
  obtain ⟨p, hp⟩ := h.exists_input?_iff.mpr ht
  have hperform : a.perform (.connect s i t j) = a.setSource p (some o) := by
    unfold PortGraph.perform
    simp only [if_neg hst, ho, hp]
  rw [hperform]
  refine
    { lastHandle := h.lastHandle
      nodes := h.nodes
      inputs := h.inputs
      outputs := h.outputs
      fresh := fun {q} hq => ⟨?_, (h.fresh hq).2⟩
      source := fun {u k q o'} hq => ?_
      value := h.value }
  · have hne : q ≠ p := fun heq =>
      absurd (h.inputs.lt hp) (Nat.not_lt.mpr (heq ▸ hq))
    exact (if_neg hne).trans (h.fresh hq).1
  · change a.input? u k = some q at hq
    show (if q = p then some o else a.source q) = some o' ↔
      ∃ l ∈ g.links.filter (fun l => !l.enters t j) ++ [⟨s, i, t, j⟩],
        l.target = u ∧ l.targetSlot = k
          ∧ a.output? l.source l.sourceSlot = some o'
    by_cases hqp : q = p
    · -- the new link is the only one that ends here
      subst hqp
      obtain ⟨rfl, rfl⟩ := h.inputs.once hq hp
      rw [if_pos rfl]
      constructor
      · rintro heq
        cases heq
        exact ⟨_, List.mem_append_right _ (List.mem_singleton_self _), rfl,
          rfl, ho⟩
      · rintro ⟨l, hl, htarget, hslot, ho'⟩
        rcases List.mem_append.mp hl with hl | hl
        · have henters := (List.mem_filter.mp hl).2
          simp [Link.enters, htarget, hslot] at henters
        · rw [List.mem_singleton.mp hl] at ho'
          exact ho.symm.trans ho'
    · rw [if_neg hqp, h.source hq]
      constructor
      · rintro ⟨l, hl, rfl, rfl, ho'⟩
        refine ⟨l, List.mem_append_left _ (List.mem_filter.mpr ⟨hl, ?_⟩),
          rfl, rfl, ho'⟩
        have hne : l.enters t j = false := by
          cases henters : l.enters t j with
          | false => rfl
          | true =>
              simp only [Link.enters, Bool.and_eq_true, beq_iff_eq] at henters
              rw [henters.1, henters.2, hp] at hq
              exact absurd (Option.some.inj hq).symm hqp
        rw [hne]
        rfl
      · rintro ⟨l, hl, htarget, hslot, ho'⟩
        rcases List.mem_append.mp hl with hl | hl
        · exact ⟨l, (List.mem_filter.mp hl).1, htarget, hslot, ho'⟩
        · rw [List.mem_singleton.mp hl] at htarget hslot
          change t = u at htarget
          change j = k at hslot
          rw [← htarget, ← hslot, hp] at hq
          exact absurd (Option.some.inj hq).symm hqp

/-- A value is held by the port that stands at the place. -/
theorem Shows.setOutputData {index : Nat} {value : Option Json}
    (h : g.Shows a) (hw : g.WellFormed)
    (hg : g.setOutputData v index value = .ok g') :
    g'.Shows (a.perform (.setOutputData v index value)) := by
  obtain ⟨n, hv, hindex, rfl⟩ := setOutputData_eq_ok_iff.mp hg
  rw [hw.values v n hv] at hindex
  obtain ⟨o, ho⟩ := h.exists_output?_iff.mpr ⟨n, hv, hindex⟩
  have hperform : a.perform (.setOutputData v index value)
      = a.hold o value := by
    unfold PortGraph.perform
    simp only [ho]
  rw [hperform]
  -- only the value of one port is another one
  refine
    { lastHandle := h.lastHandle
      nodes := fun u => ?_
      inputs := h.inputs
      outputs := h.outputs
      fresh := fun {q} hq => ⟨(h.fresh hq).1, ?_⟩
      source := h.source
      value := fun {u k q} hq => ?_ }
  · rw [Table.get?_insert]
    split
    · rename_i hu
      obtain ⟨m, hm, hof⟩ := h.of_live hv
      rw [hu]
      show Option.Rel Node.Of (a.nodes v) _
      rw [hm]
      exact Option.Rel.some ⟨hof.names, hof.outputs⟩
    · exact h.nodes u
  · -- the port is not one that is still to be given
    have hne : q ≠ o := fun heq =>
      absurd (h.outputs.lt ho) (Nat.not_lt.mpr (heq ▸ hq))
    exact (if_neg hne).trans (h.fresh hq).2
  · -- the port in question holds the value, and any other one what it held
    change a.output? u k = some q at hq
    show (if q = o then value else a.value q) = _
    unfold outputData?
    rw [Table.get?_insert]
    by_cases hqo : q = o
    · subst hqo
      obtain ⟨rfl, rfl⟩ := h.outputs.once hq ho
      rw [if_pos rfl, if_pos rfl]
      simp [hindex, hw.values u n hv]
    · rw [if_neg hqo, h.value hq]
      split
      · rename_i hu
        subst hu
        have hk : index ≠ k := by
          rintro rfl
          rw [ho] at hq
          exact hqo (Option.some.inj hq).symm
        simp [outputData?, hv, List.getElem?_set_ne hk]
      · rfl

/-! ## Operations -/

/-- Giving a handle away shows nothing else. -/
theorem Shows.count (h : g.Shows a) :
    ({ g with lastHandle := g.lastHandle + 1 } : Graph).Shows
      { a with lastHandle := a.lastHandle + 1 } where
  lastHandle := congrArg (· + 1) h.lastHandle
  nodes := h.nodes
  inputs := h.inputs
  outputs := h.outputs
  fresh := h.fresh
  source := h.source
  value := h.value

theorem outputData?_clearValues
    (hv : g.nodes.get? v = some (LiveNode.clearValues n)) :
    g.outputData? v i = none := by
  unfold outputData?
  rw [hv]
  by_cases hi : i < n.outputs.length <;>
    simp [LiveNode.clearValues, hi]

/-- A new node has ports of its own. -/
theorem Shows.addNode (h : g.Shows a) (hw : g.WellFormed)
    (nodeType title : String) (ins outs : List Port)
    (room : g.lastHandle + 1 < handleLimit) :
    (g.addNode nodeType title ins outs).2.Shows
      (a.perform (.addNode nodeType title ins outs)) := by
  rw [addNode_snd _ _ _ _ _ room, PortGraph.perform, h.lastHandle]
  have hcount := h.count
  rw [h.lastHandle] at hcount
  refine hcount.place (n := g.newNode nodeType title ins outs) hw.links
    { dead := hw.get?_fresh
      live := ?_
      values := fun i => ?_
      others := fun u hu => ?_
      links := rfl
      lastHandle := rfl }
  · rw [Table.get?_insert, if_pos rfl]
  · refine outputData?_clearValues (n := g.newNode nodeType title ins outs) ?_
    rw [Table.get?_insert, if_pos rfl]
    rfl
  · rw [Table.get?_insert, if_neg hu]

/-- New ports replace those of a node, and links and values go with the old
    ones. -/
theorem Shows.replacePorts {ins outs : List Port} (h : g.Shows a)
    (hw : g.WellFormed) (hg : g.replacePorts v ins outs = .ok g') :
    g'.Shows (a.perform (.replacePorts v ins outs)) := by
  obtain ⟨n, hv, rfl⟩ := replacePorts_eq_ok_iff.mp hg
  obtain ⟨m, hm, -⟩ := h.of_live hv
  -- there the node is removed and put in place again
  have hperform : a.perform (.replacePorts v ins outs)
      = (a.remove v).place v ins outs := by
    unfold PortGraph.perform
    simp only [hm]
  have hremove : (g.removeNode v).2
      = { g.dropLinks v with
          nodes := g.nodes.erase v
          dirty := g.dirty.erase v } := by
    unfold Graph.removeNode
    rw [if_pos (contains_iff.mpr ⟨n, hv⟩)]
  rw [hperform]
  refine (h.remove v).place
    (n := LiveNode.clearValues { n with inputs := ins, outputs := outs })
    (hw.removeNode v).links
    { dead := ?_
      live := ?_
      values := fun i => outputData?_clearValues
        (n := { n with inputs := ins, outputs := outs }) ?_
      others := fun u hu => ?_
      links := by rw [hremove, putNode_links]
      lastHandle := by rw [hremove, putNode_lastHandle] }
  · rw [hremove, Table.get?_erase, if_pos rfl]
  · rw [putNode_nodes, Table.get?_insert, if_pos rfl]
  · rw [putNode_nodes, Table.get?_insert, if_pos rfl]
  · rw [hremove, putNode_nodes, Table.get?_insert, if_neg hu,
      Table.get?_erase, if_neg hu]
    rfl

theorem Shows.setTitle {title : String} (h : g.Shows a)
    (hg : g.setTitle v title = .ok g') : g'.Shows a := by
  obtain ⟨n, hv, rfl⟩ := setTitle_eq_ok_iff.mp hg
  obtain ⟨m, hm, hof⟩ := h.of_live hv
  refine h.congr (putNode_lastHandle _ _ _) (putNode_links _ _ _)
    (rel_insert h.nodes hm ⟨hof.names, hof.outputs⟩ (fun _ _ => rfl))
    (fun _ _ => outputData?_putNode hv rfl)

theorem Shows.mark (h : g.Shows a) (v : Handle) : (g.mark v).Shows a := by
  refine h.congr (mark_lastHandle g v) (mark_links g v) (fun u => ?_)
    (fun u i => outputData?_congr ?_)
  · rw [mark_nodes]
    exact h.nodes u
  · rw [mark_nodes]

/-- What does not exist in a graph does not exist in the port graph that it
    shows, so an operation that is refused changes neither. -/
theorem Shows.perform_refused {o : Operation} {e : ModelError} (h : g.Shows a)
    (hw : g.WellFormed) (hg : g.result o = .error e) : a.perform o = a := by
  have hnot := not_admits_of_error hg
  -- what is not live here is not live there
  have hdead : ∀ v, (¬ ∃ n, g.nodes.get? v = some n) → a.nodes v = none := by
    intro v hv
    cases hn : g.nodes.get? v with
    | none => exact h.of_dead hn
    | some n => exact absurd ⟨n, hn⟩ hv
  unfold PortGraph.perform
  cases o with
  | replacePorts v ins outs => simp only [hdead v hnot]
  | addInput v port => simp only [PortGraph.addInput, hdead v hnot]
  | removeInput v name => simp only [PortGraph.removeInput, hdead v hnot]
  -- an output that is there stands on a node that is here
  | setOutputData v index value =>
      cases hout : a.output? v index with
      | none => simp only [hout]
      | some o =>
          obtain ⟨n, hn, hlt⟩ := h.exists_output?_iff.mp ⟨o, hout⟩
          rw [← hw.values v n hn] at hlt
          exact absurd ⟨n, hn, hlt⟩ hnot
  | connect s i t j =>
      simp only
      split
      · rfl
      · rename_i hst
        split
        · rename_i o p hout hin
          exact absurd ⟨hst, h.exists_output?_iff.mp ⟨o, hout⟩,
            h.exists_input?_iff.mp ⟨p, hin⟩⟩ hnot
        · rfl
  | setTitle v title => rfl
  | configure data => rfl
  | _ => cases hg

/-- What is done to a graph is done to the port graph that it shows. -/
theorem Shows.perform {o : Operation} (h : g.Shows a) (hw : g.WellFormed)
    (room : g.lastHandle + o.adds < handleLimit)
    (ho : ∀ data, o ≠ .configure data) :
    (g.perform o).Shows (a.perform o) := by
  cases hg : g.result o with
  | error e =>
      rw [perform_of_error hg, h.perform_refused hw hg]
      exact h
  | ok g' =>
      rw [perform_of_ok hg]
      cases o with
      | addNode nodeType title ins outs =>
          cases hg
          exact h.addNode hw nodeType title ins outs room
      | removeNode v =>
          cases hg
          exact h.remove v
      | setTitle v title => exact h.setTitle hg
      | replacePorts v ins outs => exact h.replacePorts hw hg
      | addInput v port => exact h.addInput hw hg
      | removeInput v name =>
          obtain ⟨⟨b, k⟩, hk, rfl⟩ := map_eq_ok_iff.mp hg
          exact h.removeInput hk
      | setOutputData v index value => exact h.setOutputData hw hg
      | mark v =>
          cases hg
          exact h.mark v
      | takeMarks =>
          cases hg
          exact h.congr rfl rfl h.nodes (fun _ _ => rfl)
      | connect s i t j => exact h.connect hg
      | clear =>
          cases hg
          exact shows_empty
      | configure data => exact absurd rfl (ho data)

/-! ## Imports -/

/-- A graph that is read shows the same ports and links, without values. -/
theorem Shows.reread (h : g.Shows a) : g.reread.Shows a.emptied := by
  -- what has been reread holds nothing
  have hvalues : ∀ v i, g.reread.outputData? v i = none := by
    intro v i
    cases hv : g.reread.nodes.get? v with
    | none => simp [outputData?, hv]
    | some m =>
        obtain ⟨n, hn, rfl⟩ := get?_reread.mp hv
        exact outputData?_clearValues hv
  exact
    { lastHandle := h.lastHandle
      nodes := fun v => by
        show Option.Rel Node.Of (a.nodes v) _
        rw [Graph.reread, Table.get?_mapValues]
        cases hn : g.nodes.get? v with
        | none =>
            rw [h.of_dead hn]
            exact Option.Rel.none
        | some n =>
            obtain ⟨m, hm, hof⟩ := h.of_live hn
            rw [hm]
            refine Option.Rel.some ⟨?_, ?_⟩
            · rw [hof.names]
              simp [LiveNode.reread, LiveNode.clearValues, Port.reread]
            · rw [hof.outputs]
              simp [LiveNode.reread, LiveNode.clearValues]
      inputs := h.inputs
      outputs := h.outputs
      fresh := fun hp => ⟨(h.fresh hp).1, rfl⟩
      source := h.source
      value := fun _ => (hvalues _ _).symm }

/-! ## Runs -/

/-- The graphs that operations lead to, each with the port graph to which the
    same has been done; with a graph that is read come the ports of the one
    that was exported. -/
inductive Followed : Nat → Graph → PortGraph → Prop where
  /-- Nothing has happened yet. -/
  | empty : Followed 0 {} {}
  /-- One more operation. -/
  | perform {n : Nat} {g : Graph} {a : PortGraph} (h : Followed n g a)
      (o : Operation) (ho : ∀ data, o ≠ .configure data) :
      Followed (n + o.adds) (g.perform o) (a.perform o)
  /-- An import of what a graph exports, which can be read. -/
  | configure {m n : Nat} {g g' k : Graph} {a a' : PortGraph}
      (h : Followed n g a) (h' : Followed m g' a')
      (hk : g.result (.configure g'.toJson) = .ok k) :
      Followed (max n m) k a'.emptied
  /-- An import that is refused. -/
  | refused {m n : Nat} {g g' : Graph} {a a' : PortGraph} {e : ModelError}
      (h : Followed n g a) (h' : Followed m g' a')
      (he : g.result (.configure g'.toJson) = .error e) :
      Followed (max n m) g a

theorem Followed.reached {n : Nat} (h : Followed n g a) : Reached n g := by
  induction h with
  | empty => exact .empty
  | perform _ o ho ih => exact ih.perform o ho
  | configure _ _ hk ih ih' =>
      have hreached := ih.configure ih'
      rwa [perform_of_ok hk] at hreached
  | refused _ _ he ih ih' =>
      have hreached := ih.configure ih'
      rwa [perform_of_error he] at hreached

/-- Every graph that is reached has a port graph beside it. -/
theorem Reached.exists_followed {n : Nat} (h : Reached n g) :
    ∃ a, Followed n g a := by
  induction h with
  | empty => exact ⟨_, .empty⟩
  | perform _ o ho ih =>
      obtain ⟨a, ha⟩ := ih
      exact ⟨_, ha.perform o ho⟩
  | @configure m n g g' _ _ ih ih' =>
      obtain ⟨a, ha⟩ := ih
      obtain ⟨a', ha'⟩ := ih'
      cases hk : g.result (.configure g'.toJson) with
      | ok k =>
          rw [perform_of_ok hk]
          exact ⟨_, ha.configure ha' hk⟩
      | error e =>
          rw [perform_of_error hk]
          exact ⟨_, ha.refused ha' hk⟩

/-- By induction over the operations: a graph shows the port graph that it was
    followed by. -/
theorem Followed.shows {n : Nat} (h : Followed n g a)
    (hn : n < handleLimit) : g.Shows a := by
  induction h with
  | empty => exact shows_empty
  | perform h o ho ih =>
      obtain ⟨hw, hlast⟩ := h.reached.wellFormed
        (Nat.lt_of_le_of_lt (Nat.le_add_right _ _) hn)
      exact (ih (Nat.lt_of_le_of_lt (Nat.le_add_right _ _) hn)).perform hw
        (Nat.lt_of_le_of_lt (Nat.add_le_add_right hlast _) hn) ho
  | @configure m n g g' k a a' h h' hk ih ih' =>
      have hm : m < handleLimit :=
        Nat.lt_of_le_of_lt (Nat.le_max_right n m) hn
      rcases (h'.reached.wellFormed hm).1.configure_toJson with hg | ⟨e, hg⟩
      · rw [← Except.ok.inj (hg.symm.trans hk)]
        exact (ih' hm).reread
      · rw [show g.result (.configure g'.toJson) = .error e from hg] at hk
        cases hk
  | refused _ _ _ ih _ =>
      exact ih (Nat.lt_of_le_of_lt (Nat.le_max_left _ _) hn)

/-! ## What is read -/

/-- Whether an operation changes no link. -/
def Operation.KeepsLinks : Operation → Prop
  | .removeNode _ | .replacePorts .. | .removeInput .. | .connect .. | .clear
  | .configure _ => False
  | _ => True

theorem perform_links {o : Operation} (ho : o.KeepsLinks) :
    (g.perform o).links = g.links := by
  cases hg : g.result o with
  | error e => rw [perform_of_error hg]
  | ok g' =>
      rw [perform_of_ok hg]
      -- any other operation is excluded
      cases o with
      | addNode nodeType title ins outs =>
          cases hg
          rfl
      | setTitle v title =>
          obtain ⟨n, -, rfl⟩ := setTitle_eq_ok_iff.mp hg
          exact putNode_links _ _ _
      | addInput v port =>
          obtain ⟨n, -, rfl⟩ := addInput_eq_ok_iff.mp hg
          exact putNode_links _ _ _
      | setOutputData v index value =>
          obtain ⟨n, -, -, rfl⟩ := setOutputData_eq_ok_iff.mp hg
          rfl
      | mark v =>
          cases hg
          exact mark_links g v
      | takeMarks =>
          cases hg
          rfl
      | _ => exact ho.elim

/-- Inputs that are left read what they read before, wherever they stand. -/
theorem Shows.inputData?_removeInput {name : String} {slot : Nat} {b : Bool}
    (h : g.Shows a) (hw : g.WellFormed) (hv : g.nodes.get? v = some n)
    (hslot : n.inputs.findIdx? (fun p => p.name == name) = some slot)
    (hg : g.removeInput v name = .ok (b, g')) (u : Handle) (i : Nat) :
    g'.inputData? u i
      = g.inputData? u (if u = v then movedFrom slot i else i) := by
  obtain ⟨m, hm, hof⟩ := h.of_live hv
  have hwithout := h.without hm (hof.findIdx? name ▸ hslot)
  rw [(h.removeInput hg).inputData?_eq (hw.removeInput hg),
    h.inputData?_eq hw, ← hwithout.input?]
  refine Option.bind_congr (fun p hp => ?_)
  rw [PortGraph.read?, PortGraph.read?, hwithout.source hp, hwithout.value]

/-- Links follow their ports.  Beside every graph that is reached with fewer
    nodes added than there are handles there is a port graph to which the same
    has been done.  The places of the graph stand for its ports, and what is
    read at a place is what the output holds to which the input there is
    linked.  Operations that name no link keep all of them; and once an input
    is removed, every other one reads what it read before. -/
theorem Reached.links_follow_ports {n : Nat} (h : Reached n g)
    (hn : n < handleLimit) :
    (∃ a, Followed n g a)
      ∧ (∀ a, Followed n g a → g.Shows a
          ∧ ∀ v i, g.inputData? v i = (a.input? v i).bind a.read?)
      ∧ (∀ o, o.KeepsLinks → (g.perform o).links = g.links)
      ∧ ∀ v k name slot g', g.nodes.get? v = some k →
          k.inputs.findIdx? (fun p => p.name == name) = some slot →
          g.removeInput v name = .ok (true, g') →
          (∀ j, j < slot → g'.inputData? v j = g.inputData? v j)
            ∧ (∀ j, slot < j → g'.inputData? v (j - 1) = g.inputData? v j)
            ∧ ∀ u j, u ≠ v → g'.inputData? u j = g.inputData? u j := by
  obtain ⟨hw, -⟩ := h.wellFormed hn
  obtain ⟨a, ha⟩ := h.exists_followed
  have hshows := ha.shows hn
  refine ⟨⟨a, ha⟩, fun a ha => ⟨ha.shows hn, (ha.shows hn).inputData?_eq hw⟩,
    fun o ho => perform_links ho, ?_⟩
  intro v k name slot g' hv hslot hg
  have hread := hshows.inputData?_removeInput hw hv hslot hg
  refine ⟨fun j hj => ?_, fun j hj => ?_, fun u j hu => ?_⟩
  · rw [hread, if_pos rfl, movedFrom, if_pos hj]
  · rw [hread, if_pos rfl, movedFrom, if_neg (by omega),
      Nat.sub_add_cancel (by omega)]
  · rw [hread, if_neg hu]

/-- The second and the third input of a node are linked.  Once the first one
    is removed, which has the name of the third, they read in the first and
    the second place what they read before. -/
theorem links_follow_ports_shifted :
    let p : Port := ⟨"x", "number", none⟩
    let q : Port := ⟨"y", "number", none⟩
    let g := [Operation.addNode "a" "A" [] [p, q],
      .addNode "b" "B" [p, q, p] [], .connect 1 0 2 1, .connect 1 1 2 2,
      .setOutputData 1 0 (some (.bool true)),
      .setOutputData 1 1 (some (.bool false))].foldl perform {}
    (Reached 2 g ∧ 2 < handleLimit)
      ∧ ∃ g', g.removeInput 2 "x" = .ok (true, g')
          ∧ g'.inputData? 2 0 = some (.bool true)
          ∧ g'.inputData? 2 1 = some (.bool false)
          ∧ g'.inputData? 2 2 = none := by
  -- the second and the third input have links; the first one is removed
  intro p q g
  have h : Reached 2 g :=
    (((((Reached.empty.perform (.addNode "a" "A" [] [p, q]) (by simp)).perform
      (.addNode "b" "B" [p, q, p] []) (by simp)).perform
        (.connect 1 0 2 1) (by simp)).perform
          (.connect 1 1 2 2) (by simp)).perform
            (.setOutputData 1 0 (some (.bool true))) (by simp)).perform
              (.setOutputData 1 1 (some (.bool false))) (by simp)
  refine ⟨⟨h, by decide⟩, g.perform (.removeInput 2 "x"),
    by decide +kernel, ?_⟩
  obtain ⟨-, -, -, hmoved⟩ := h.links_follow_ports (by decide)
  obtain ⟨-, hbehind, -⟩ := hmoved 2
    { handle := 2, nodeType := "b", title := "B", inputs := [p, q, p],
      outputs := [], values := [] } "x" 0 (g.perform (.removeInput 2 "x"))
    (by decide +kernel) (by decide +kernel) (by decide +kernel)
  refine ⟨?_, ?_, ?_⟩
  · exact (hbehind 1 (by decide)).trans (by decide +kernel)
  · exact (hbehind 2 (by decide)).trans (by decide +kernel)
  · exact (hbehind 3 (by decide)).trans (by decide +kernel)

end NodeFlow.Graph
