import NodeFlow.Proofs.Decode
import NodeFlow.Proofs.Workbench.Consistent

/-! # Changing ports

    The operations on the ports of a node change its record and put one node
    in place of the old one, or leave everything alone. -/

namespace NodeFlow.Workbench

variable {ok : Port → Prop} {view : Port → Port} {w : Workbench} {v : Handle}
  {x : Record}

/-! ## Dynamic inputs -/

/-- The live node gets the input that its record gets. -/
theorem touched_addDynamicInput (hseen : Port.Seen ok view)
    (h : w.Consistent ok view) (v : Handle) (name type : String) :
    Touched ok view w (w.addDynamicInput v name type).2 := by
  unfold addDynamicInput
  cases hx : w.registry.recordOf? v with
  | none => exact .refl h.graph
  | some x =>
      obtain ⟨hrec, -⟩ := h.registry.recordOf?_eq_some_iff.mp hx
      simp only [Registry.addDynamicInput_eq hrec]
      -- the record refuses a name that is in use, and then the graph stays
      by_cases hused : x.hasInput name = true
      · simpa [hused] using Touched.refl h.graph
      · rw [Bool.not_eq_true] at hused
        obtain ⟨n, hn, hshow⟩ := h.shows v x hx
        have hadd := Graph.addInput_eq_ok_iff (p := ⟨name, type, none⟩).mpr
          ⟨n, hn, rfl⟩
        have hfound : w.registry.records.contains x.id = true :=
          Table.contains_iff.mpr ⟨x, hrec⟩
        simp only [hused, Bool.false_eq_true, if_false, Registry.update_fst,
          hfound, if_true, hadd, attempt]
        refine .updateNode
          (m := { n with inputs := n.inputs ++ [⟨name, type, none⟩] })
          h.registry hx hn
          (Record.revised_withInput hused (hseen.plain _ rfl))
          (h.graph.addInput hadd) (Graph.putNode_lastHandle _ _ _) ?_
          ⟨hshow.title, ?_, hshow.outputs⟩
        · intro u
          rw [Graph.putNode_nodes, Table.get?_insert]
        · show (n.inputs ++ [_]).map view
            = (x.inputs ++ (x.dynamicInputs ++ [_])).map view
          rw [← List.append_assoc, List.map_append, hshow.inputs,
            ← List.map_append]
          rfl

/-- The node without the first input of a name. -/
theorem removeInput_nodes {g g' : Graph} {n : LiveNode} {name : String}
    {b : Bool} (hv : g.nodes.get? v = some n)
    (hg : g.removeInput v name = .ok (b, g')) (u : Handle) :
    g'.nodes.get? u
      = if u = v then
          some { n with
            inputs := n.inputs.eraseP (fun p => p.name == name) }
        else g.nodes.get? u := by
  obtain ⟨k, hk, ⟨hnone, -, rfl⟩ | ⟨slot, hslot, -, rfl⟩⟩ :=
    Graph.removeInput_eq_ok_iff.mp hg
  · rw [hv] at hk
    cases hk
    rw [List.eraseP_eq_eraseIdx, hnone]
    split
    · rename_i hu
      rw [hu, hv]
    · rfl
  · rw [hv] at hk
    cases hk
    rw [List.eraseP_eq_eraseIdx, hslot, Graph.putNode_nodes, Table.get?_insert]
    rfl

theorem removeInput_lastHandle {g g' : Graph} {name : String} {b : Bool}
    (hg : g.removeInput v name = .ok (b, g')) :
    g'.lastHandle = g.lastHandle := by
  obtain ⟨n, -, ⟨-, -, rfl⟩ | ⟨slot, -, -, rfl⟩⟩ :=
    Graph.removeInput_eq_ok_iff.mp hg
  · rfl
  · exact Graph.putNode_lastHandle _ _ _

/-- An input is taken from any live node, if there is one of the name. -/
theorem exists_removeInput {g : Graph} {n : LiveNode}
    (hv : g.nodes.get? v = some n) (name : String) :
    ∃ b g', g.removeInput v name = .ok (b, g') := by
  cases hslot : n.inputs.findIdx? (fun p => p.name == name) with
  | none =>
      exact ⟨false, g, Graph.removeInput_eq_ok_iff.mpr
        ⟨n, hv, Or.inl ⟨hslot, rfl, rfl⟩⟩⟩
  | some slot =>
      exact ⟨true, _, Graph.removeInput_eq_ok_iff.mpr
        ⟨n, hv, Or.inr ⟨slot, hslot, rfl, rfl⟩⟩⟩

/-- The live node loses the input that its record loses, in the place that
    this has among all of them. -/
theorem touched_removeDynamicInput (hseen : Port.Seen ok view)
    (h : w.Consistent ok view) (v : Handle) (name : String) :
    Touched ok view w (w.removeDynamicInput v name).2 := by
  unfold removeDynamicInput
  cases hx : w.registry.recordOf? v with
  | none => exact .refl h.graph
  | some x =>
      obtain ⟨hrec, -⟩ := h.registry.recordOf?_eq_some_iff.mp hx
      obtain ⟨n, hn, hshow⟩ := h.shows v x hx
      obtain ⟨b, g', hremove⟩ := exists_removeInput hn name
      have hd := h.registry.inputs _ x hrec
      have hrev : x.Revised ok (x.withoutInput name) :=
        x.revised_withoutInput name
      simp only [Registry.removeDynamicInput_fst hrec,
        Registry.removeDynamicInput_snd hrec, hremove, Except.map, attempt]
      by_cases hname : x.dynamicInputs.any (fun d => d.name == name) = true
      · rw [if_pos hname]
        refine .updateNode h.registry hx hn hrev
          (h.graph.removeInput hremove) (removeInput_lastHandle hremove)
          (removeInput_nodes hn hremove) ⟨hshow.title, ?_, hshow.outputs⟩
        show (n.inputs.eraseP _).map view
          = (x.withoutInput name).liveInputs.map view
        -- the graph removes the first input of the name, which is dynamic
        have hnames : (fun p : Port => p.name == name)
            = (fun p : Port => p.name == name) ∘ view := by
          funext p
          simp [hseen.name p]
        rw [← hd.eraseP_liveInputs hname, hnames, ← List.eraseP_map,
          ← List.eraseP_map, hshow.inputs]
      · rw [if_neg hname]
        refine .updateNode (m := n) h.registry hx hn hrev h.graph rfl
          (fun u => ?_) (by rwa [Record.withoutInput_of_unused hname])
        split
        · rename_i hu
          rw [hu, hn]
        · rfl

/-! ## Static ports -/

/-- The node once it shows another title and other ports. -/
def restructuredNode (n : LiveNode) (title : String) (ins outs : List Port) :
    LiveNode :=
  { LiveNode.clearValues { n with inputs := ins, outputs := outs } with
    title := title }

/-- A live node takes title and ports of its record, and no other node
    changes. -/
theorem showStructure_eq {g : Graph} {n : LiveNode}
    (hv : g.nodes.get? v = some n) (title : String) (x : Record) :
    ∃ g₁ g₂, g.replacePorts v x.liveInputs x.outputs = .ok g₁
      ∧ g₁.setTitle v title = .ok g₂
      ∧ showStructure g v title x = g₂.mark v
      ∧ (∀ u, (g₂.mark v).nodes.get? u
          = if u = v then
              some (restructuredNode n title x.liveInputs x.outputs)
            else g.nodes.get? u)
      ∧ (g₂.mark v).lastHandle = g.lastHandle := by
  have hports : g.replacePorts v x.liveInputs x.outputs = .ok _ :=
    Graph.replacePorts_eq_ok_iff.mpr ⟨n, hv, rfl⟩
  generalize hg₁ : (g.dropLinks v).putNode v (LiveNode.clearValues
    { n with inputs := x.liveInputs, outputs := x.outputs }) = g₁ at hports
  have hnode : g₁.nodes.get? v = some (LiveNode.clearValues
      { n with inputs := x.liveInputs, outputs := x.outputs }) := by
    rw [← hg₁, Graph.putNode_nodes, Table.get?_insert, if_pos rfl]
  have htitle : g₁.setTitle v title = .ok _ :=
    Graph.setTitle_eq_ok_iff.mpr ⟨_, hnode, rfl⟩
  refine ⟨g₁, _, hports, htitle, ?_, ?_, ?_⟩
  · unfold showStructure
    simp only [hports, ok_bind, htitle, attempt]
  · intro u
    rw [Graph.mark_nodes, Graph.putNode_nodes, Table.get?_insert]
    split
    · rfl
    · rename_i hu
      rw [← hg₁, Graph.putNode_nodes, Table.get?_insert, if_neg hu]
      rfl
  · rw [Graph.mark_lastHandle, Graph.putNode_lastHandle, ← hg₁,
      Graph.putNode_lastHandle]
    rfl

theorem applyStructure_snd (w : Workbench) (id title : String)
    (ins outs : List Port) :
    (w.applyStructure id title ins outs).2
      = ⟨match w.registry.records.get? id, w.registry.links.get? id with
          | some x, some v =>
              showStructure w.graph v title
                (Registry.restructured title ins outs x)
          | _, _ => w.graph,
          (w.registry.setStructure id title ins outs).2⟩ := by
  unfold applyStructure Registry.setStructure Registry.record?
    Registry.handleOf?
  rw [show w.registry.update id (Registry.restructured title ins outs)
    = (w.registry.records.contains id,
        (w.registry.update id (Registry.restructured title ins outs)).2)
    from Prod.ext (Registry.update_fst _ _ _) rfl]
  simp only [Registry.get?_update, Registry.update_links, if_true]
  cases hx : w.registry.records.get? id with
  | none =>
      have hnone : w.registry.records.contains id = false :=
        Table.contains_eq_false_iff.mpr hx
      simp [hnone, Registry.update]
  | some x =>
      have hsome : w.registry.records.contains id = true :=
        Table.contains_iff.mpr ⟨x, hx⟩
      cases w.registry.links.get? id <;> simp [hsome]

/-- Record and live node get the same title and ports. -/
theorem touched_applyStructure (h : w.Consistent ok view) (id title : String)
    {ins outs : List Port} (hin : ∀ p ∈ ins, ok p) (hout : ∀ p ∈ outs, ok p) :
    Touched ok view w (w.applyStructure id title ins outs).2 := by
  rw [applyStructure_snd]
  have hrev : ∀ y : Record,
      y.Revised ok (Registry.restructured title ins outs y) :=
    fun y => y.revised_restructured title hin hout
  -- a record without a node is shown nowhere
  have hunshown : w.registry.links.get? id = none →
      Touched ok view w
        ⟨w.graph, (w.registry.setStructure id title ins outs).2⟩ := by
    intro hnone
    refine .update h.registry (fun y _ => hrev y) h.graph rfl (fun _ => rfl)
      (fun u y n hu hn hshow => ⟨n, hn, ?_⟩)
    have hne : y.id ≠ id := by
      rintro rfl
      obtain ⟨-, hlink⟩ := h.registry.recordOf?_eq_some_iff.mp hu
      rw [hnone] at hlink
      cases hlink
    rwa [if_neg hne]
  cases hl : w.registry.links.get? id with
  | none =>
      cases w.registry.records.get? id <;> exact hunshown hl
  | some v =>
      obtain ⟨x, hx, -⟩ := (h.registry.linked id).mp ⟨v, hl⟩
      have hname := h.registry.named id x hx
      have hrecord : w.registry.recordOf? v = some x := by
        rw [h.registry.recordOf?_eq_some_iff, hname]
        exact ⟨hx, hl⟩
      obtain ⟨n, hn, hshow⟩ := h.shows v x hrecord
      obtain ⟨g₁, g₂, hports, htitle, hshown, hnodes, hlast⟩ :=
        showStructure_eq hn title (Registry.restructured title ins outs x)
      rw [hx]
      show Touched ok view w ⟨showStructure _ _ _ _, _⟩
      rw [hshown, Registry.setStructure, ← hname]
      exact .updateNode h.registry hrecord hn (hrev x)
        (((h.graph.replacePorts hports).setTitle htitle).mark v) hlast hnodes
        ⟨rfl, rfl, rfl⟩

end NodeFlow.Workbench
