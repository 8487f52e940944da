import NodeFlow.Proofs.Graph.Blob
import NodeFlow.Proofs.Registry.WellFormed
import NodeFlow.Workbench

/-! # Graph and registry agree

    In a consistent workbench every recorded node is live and shows title and
    ports of its record.  How far two ports have to agree is a parameter:
    `view` is what is seen of a port, and `ok` which ports are admissible.

    Most operations change a record and its node and leave the rest alone.
    `Touched` says what such an operation keeps, and each of them is shown to
    be one; what adds or removes nodes is looked at by itself. -/

namespace NodeFlow

/-- What may be seen of admissible ports: the name, and as much as an export
    keeps. -/
structure Port.Seen (ok : Port → Prop) (view : Port → Port) : Prop where
  /-- The name is seen. -/
  name : ∀ p, (view p).name = p.name
  /-- Ports without options are admissible. -/
  plain : ∀ p, p.extra = none → ok p
  /-- An export keeps what is seen of an admissible port. -/
  reread : ∀ p, ok p → view p.reread = view p
  /-- Ports that look alike do so once they are read again. -/
  congr : ∀ p q, view p = view q → view p.reread = view q.reread

/-- Whether a node shows title and ports of a record. -/
structure LiveNode.Shows (view : Port → Port) (n : LiveNode) (x : Record) :
    Prop where
  /-- The title. -/
  title : n.title = x.title
  /-- Static inputs, then dynamic ones. -/
  inputs : n.inputs.map view = x.liveInputs.map view
  /-- The outputs. -/
  outputs : n.outputs.map view = x.outputs.map view

/-- What a node shows does not depend on the values. -/
theorem LiveNode.clearValues_shows {view : Port → Port} {n : LiveNode}
    {x : Record} : n.clearValues.Shows view x ↔ n.Shows view x :=
  ⟨fun h => ⟨h.title, h.inputs, h.outputs⟩,
    fun h => ⟨h.title, h.inputs, h.outputs⟩⟩

namespace Workbench

/-- What every operation on a workbench can rely on. -/
structure Consistent (ok : Port → Prop) (view : Port → Port) (w : Workbench) :
    Prop where
  /-- The graph is well-formed. -/
  graph : w.graph.WellFormed
  /-- The registry is well-formed. -/
  registry : w.registry.WellFormed
  /-- Ports of records are admissible. -/
  ports : ∀ id x, w.registry.records.get? id = some x → x.Ports ok
  /-- So are those that records start with. -/
  templates : ∀ nodeType id, (w.registry.newRecord id nodeType).Ports ok
  /-- A recorded node is live and shows its record. -/
  shows : ∀ v x, w.registry.recordOf? v = some x →
    ∃ n, w.graph.nodes.get? v = some n ∧ n.Shows view x
  /-- Every record was made for a node of its own. -/
  bounded : w.registry.order.length ≤ w.graph.lastHandle

variable {ok : Port → Prop} {view : Port → Port} {w w' : Workbench}
  {v : Handle} {x : Record}

/-! ## Changing records and their nodes -/

/-- What an operation leaves as it is or keeps up that neither adds nor
    removes nodes. -/
structure Touched (ok : Port → Prop) (view : Port → Port) (w w' : Workbench) :
    Prop where
  /-- Records change into records like them. -/
  registry : w.registry.Revised ok w'.registry
  /-- The graph stays well-formed. -/
  graph : w'.graph.WellFormed
  /-- No handle is given. -/
  lastHandle : w'.graph.lastHandle = w.graph.lastHandle
  /-- The same nodes are live. -/
  handles : ∀ v, w'.graph.contains v = w.graph.contains v
  /-- A node that showed its record does so still. -/
  shows : ∀ v x n, w.registry.recordOf? v = some x →
    w.graph.nodes.get? v = some n → n.Shows view x →
    ∃ y m, w'.registry.recordOf? v = some y
      ∧ w'.graph.nodes.get? v = some m ∧ m.Shows view y

theorem Touched.refl (h : w.graph.WellFormed) : Touched ok view w w :=
  ⟨.refl _, h, rfl, fun _ => rfl,
    fun _ x n hx hn hshow => ⟨x, n, hx, hn, hshow⟩⟩

theorem newRecord_congr {r r' : Registry} (h : r'.templates = r.templates)
    (id nodeType : String) :
    r'.newRecord id nodeType = r.newRecord id nodeType := by
  unfold Registry.newRecord
  rw [h]

/-- Graph and records agree after an operation that neither adds nor removes
    nodes. -/
theorem Consistent.touched (h : w.Consistent ok view)
    (ht : Touched ok view w w') : w'.Consistent ok view where
  graph := ht.graph
  registry := h.registry.revised ht.registry
  ports id y hy := by
    obtain ⟨x, hx, hrev⟩ := ht.registry.of_get? hy
    exact hrev.ports (h.ports id x hx)
  templates nodeType id := by
    rw [newRecord_congr ht.registry.templates]
    exact h.templates nodeType id
  shows v y hy := by
    -- the record is a revision of one that was there, and shown like that one
    have hsome := ht.registry.recordOf?_isSome v
    rw [hy, Option.isSome_some] at hsome
    obtain ⟨x, hx⟩ := Option.isSome_iff_exists.mp hsome.symm
    obtain ⟨n, hn, hshow⟩ := h.shows v x hx
    obtain ⟨z, m, hz, hm, hshow'⟩ := ht.shows v x n hx hn hshow
    rw [hy] at hz
    cases hz
    exact ⟨m, hm, hshow'⟩
  bounded := by
    rw [ht.registry.order, ht.lastHandle]
    exact h.bounded

/-- A record may change if its node shows the change. -/
theorem Touched.update {id : String} {f : Record → Record} {g : Graph}
    (h : w.registry.WellFormed)
    (hf : ∀ y, w.registry.records.get? id = some y → y.Revised ok (f y))
    (hg : g.WellFormed) (hlast : g.lastHandle = w.graph.lastHandle)
    (hhandles : ∀ u, g.contains u = w.graph.contains u)
    (hshows : ∀ u y n, w.registry.recordOf? u = some y →
      w.graph.nodes.get? u = some n → n.Shows view y →
      ∃ m, g.nodes.get? u = some m
        ∧ m.Shows view (if y.id = id then f y else y)) :
    Touched ok view w ⟨g, (w.registry.update id f).2⟩ where
  registry := .update f hf
  graph := hg
  lastHandle := hlast
  handles := hhandles
  shows u y n hy hn hshow := by
    obtain ⟨m, hm, hshow'⟩ := hshows u y n hy hn hshow
    obtain ⟨-, hlink⟩ := h.recordOf?_eq_some_iff.mp hy
    refine ⟨_, m, ?_, hm, hshow'⟩
    rw [Registry.recordOf?_update, hy, (h.inverse u y.id).mpr hlink]
    simp

/-- A record may change together with its node. -/
theorem Touched.updateNode {f : Record → Record} {g : Graph}
    {n m : LiveNode} (h : w.registry.WellFormed)
    (hx : w.registry.recordOf? v = some x)
    (hn : w.graph.nodes.get? v = some n) (hf : x.Revised ok (f x))
    (hg : g.WellFormed) (hlast : g.lastHandle = w.graph.lastHandle)
    (hnodes : ∀ u, g.nodes.get? u
      = if u = v then some m else w.graph.nodes.get? u)
    (hshow : m.Shows view (f x)) :
    Touched ok view w ⟨g, (w.registry.update x.id f).2⟩ := by
  obtain ⟨hrec, -⟩ := h.recordOf?_eq_some_iff.mp hx
  refine .update h (fun y hy => ?_) hg hlast (fun u => ?_)
    (fun u y k hu hk hshows => ?_)
  · rw [hrec] at hy
    cases hy
    exact hf
  · unfold Graph.contains Table.contains
    rw [hnodes]
    split
    · rename_i hu
      rw [hu, hn]
      rfl
    · rfl
  · by_cases huv : u = v
    · rw [huv, hx] at hu
      cases hu
      rw [if_pos rfl]
      exact ⟨m, by rw [hnodes, if_pos huv], hshow⟩
    · have hne : y.id ≠ x.id := fun heq => huv (h.recordOf?_inj hu hx heq)
      rw [if_neg hne]
      exact ⟨k, by rw [hnodes, if_neg huv, hk], hshows⟩

/-! ## Values -/

/-- Whether two workbenches differ in values and marks only. -/
structure SameButValues (w w' : Workbench) : Prop where
  /-- The registry is the same. -/
  registry : w'.registry = w.registry
  /-- So is the graph but for values and marks. -/
  blank : w'.graph.blank = w.graph.blank
  /-- The graph stays well-formed. -/
  graph : w.graph.WellFormed → w'.graph.WellFormed

theorem SameButValues.refl (w : Workbench) : w.SameButValues w :=
  ⟨rfl, rfl, id⟩

theorem SameButValues.trans {w'' : Workbench} (h : w.SameButValues w')
    (h' : w'.SameButValues w'') : w.SameButValues w'' :=
  ⟨h'.registry.trans h.registry, h'.blank.trans h.blank,
    fun hw => h'.graph (h.graph hw)⟩

/-- A change of values and marks neither adds nor removes nodes. -/
theorem SameButValues.touched (h : w.graph.WellFormed)
    (hw : w.SameButValues w') : Touched ok view w w' where
  registry := hw.registry ▸ .refl _
  graph := hw.graph h
  lastHandle := Graph.lastHandle_eq_of_blank hw.blank
  handles v := Graph.contains_eq_of_blank hw.blank v
  shows v x n hx hn hshow := by
    obtain ⟨m, hm, hsame⟩ := Graph.exists_of_blank_eq hw.blank.symm hn
    refine ⟨x, m, by rw [hw.registry, hx], hm,
      LiveNode.clearValues_shows.mp ?_⟩
    rw [hsame]
    exact LiveNode.clearValues_shows.mpr hshow

/-! ## Properties and saved code -/

/-- A change of properties neither adds nor removes nodes. -/
theorem touched_updateProperties (h : w.Consistent ok view) (id : String)
    (more : Table String Json) :
    Touched ok view w ⟨w.graph, (w.registry.updateProperties id more).2⟩ := by
  refine .update h.registry (fun y _ => y.revised_withProperties more) h.graph
    rfl (fun _ => rfl) (fun u y n _ hn hshow => ⟨n, hn, ?_⟩)
  split
  · exact ⟨hshow.title, hshow.inputs, hshow.outputs⟩
  · exact hshow

/-- What is saved as code is not part of any record. -/
theorem Touched.withCode (ht : Touched ok view w w')
    (code : Table String SavedCode) :
    Touched ok view w
      { w' with registry := { w'.registry with code := code } } :=
  ⟨⟨ht.registry.records, ht.registry.missing, ht.registry.order,
      ht.registry.index, ht.registry.links, ht.registry.templates,
      ht.registry.nextId⟩,
    ht.graph, ht.lastHandle, ht.handles, ht.shows⟩

/-- Saving code neither adds nor removes nodes. -/
theorem touched_setCode (h : w.Consistent ok view)
    (id code language : String) (now : Timestamp) :
    Touched ok view w (w.setCode id code language now).2 := by
  unfold setCode
  have hprop := touched_updateProperties h id
    (Table.ofList [(Record.codeKey, .str code)])
  generalize w.registry.updateProperties id
    (Table.ofList [(Record.codeKey, .str code)]) = result at hprop
  obtain ⟨found, registry⟩ := result
  cases found with
  | false => exact .refl h.graph
  | true =>
      show Touched ok view w
        ⟨w.graph, (registry.saveCode id code language now).2⟩
      unfold Registry.saveCode
      split
      · exact hprop.withCode _
      · exact hprop

theorem touched_setDescription (h : w.Consistent ok view) (id text : String) :
    Touched ok view w (w.setDescription id text).2 :=
  touched_updateProperties h id _

/-! ## Links -/

/-- A new link neither adds nor removes nodes. -/
theorem touched_connect {s t : Handle} {i j : Nat} {g : Graph}
    (h : w.Consistent ok view) (hg : w.graph.connect s i t j = .ok g) :
    Touched ok view w { w with graph := g } := by
  have hwell := h.graph.connect hg
  obtain ⟨-, -, -, rfl⟩ := Graph.connect_eq_ok_iff.mp hg
  exact ⟨.refl _, hwell, rfl, fun _ => rfl,
    fun _ x n hx hn hshow => ⟨x, n, hx, hn, hshow⟩⟩

end Workbench
end NodeFlow
