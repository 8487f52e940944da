import NodeFlow.Proofs.Workbench.Reachable

/-! # Workbenches with a shared graph

    The graph of a workbench may be in other hands as well, where nodes are
    added that have no record and values are written to outputs.  Graph and
    records still agree as far as names and numbers of ports go
    (`Shared.agreeing`), if they agree after every import. -/

namespace NodeFlow

/-- Of ports whose options need not be kept names and types may be seen. -/
theorem seen_bare : Port.Seen (fun _ => True) Port.bare where
  name _ := rfl
  plain _ _ := trivial
  reread _ _ := rfl
  congr _ _ hpq := hpq

namespace Workbench

/-- Whether graph and records agree but for the options of ports. -/
def Agreeing (w : Workbench) : Prop := w.Consistent (fun _ => True) Port.bare

/-- What operations lead to from an empty workbench if its graph is shared.
    `imports` tells what a snapshot from elsewhere may lead to. -/
inductive Shared (imports : Workbench → Prop) : Workbench → Prop where
  /-- Nothing has happened yet. -/
  | empty (templates : Table String Template) :
      Shared imports ⟨{}, { templates := templates }⟩
  /-- One more operation on the workbench, with any ports. -/
  | step {w w' : Workbench} (h : Shared imports w)
      (hs : Step (fun _ => True) w w') : Shared imports w'
  /-- A node without a record is added while handles are left. -/
  | addNode {w : Workbench} (h : Shared imports w) (nodeType title : String)
      (inputs outputs : List Port)
      (room : w.graph.lastHandle + 1 < Graph.handleLimit) :
      Shared imports
        { w with graph := (w.graph.addNode nodeType title inputs outputs).2 }
  /-- A value is written to an output, if it exists. -/
  | write {w : Workbench} (h : Shared imports w) (v : Handle) (index : Nat)
      (value : Option Json) :
      Shared imports
        { w with
          graph := attempt w.graph (w.graph.setOutputData v index value) }
  /-- An import of what another workbench exports. -/
  | configure {w w' : Workbench} (h : Shared imports w)
      (h' : Shared imports w') : Shared imports (w.configure w'.snapshot).2
  /-- An import of a snapshot from elsewhere. -/
  | adopt {w : Workbench} (h : Shared imports w) (s : Snapshot)
      (hs : imports (w.configure s).2) : Shared imports (w.configure s).2

variable {ok : Port → Prop} {view : Port → Port} {w : Workbench}

/-- A node without a record has no record to disagree with. -/
theorem Consistent.addBare (h : w.Consistent ok view)
    (nodeType title : String) (inputs outputs : List Port)
    (room : w.graph.lastHandle + 1 < Graph.handleLimit) :
    Consistent ok view
      { w with
        graph := (w.graph.addNode nodeType title inputs outputs).2 } where
  graph := h.graph.addNode nodeType title inputs outputs room
  registry := h.registry
  ports := h.ports
  templates := h.templates
  shows v x hx := by
    obtain ⟨n, hn, hshow⟩ := h.shows v x hx
    -- a node that was live is not the new one
    have hne : v ≠ w.graph.lastHandle + 1 := by
      intro heq
      rw [heq, h.graph.get?_fresh] at hn
      cases hn
    refine ⟨n, ?_, hshow⟩
    rw [Graph.addNode_snd _ _ _ _ _ room]
    show (w.graph.nodes.insert _ _).get? v = some n
    rw [Table.get?_insert, if_neg hne, hn]
  bounded := by
    rw [Graph.addNode_snd _ _ _ _ _ room]
    exact Nat.le_succ_of_le h.bounded

theorem sameButValues_write (w : Workbench) (v : Handle) (index : Nat)
    (value : Option Json) :
    w.SameButValues
      { w with
        graph := attempt w.graph (w.graph.setOutputData v index value) } := by
  cases hset : w.graph.setOutputData v index value with
  | ok g => exact ⟨rfl, Graph.setOutputData_blank hset,
      fun h => h.setOutputData hset⟩
  | error e => exact .refl w

/-- By induction over what has been done: graph and records agree, if they do
    after every snapshot that comes from elsewhere. -/
theorem Shared.agreeing (h : Shared Agreeing w) : w.Agreeing := by
  induction h with
  | empty templates =>
      exact consistent_empty (fun _ _ _ =>
        ⟨fun _ _ => trivial, fun _ _ => trivial⟩)
  | step _ hs ih => exact ih.step seen_bare hs
  | addNode _ nodeType title inputs outputs room ih =>
      exact ih.addBare nodeType title inputs outputs room
  | @write w _ v index value ih =>
      exact ih.touched ((w.sameButValues_write v index value).touched ih.graph)
  | configure _ _ ih ih' => exact ih.configure seen_bare ih'
  | adopt _ s hs _ => exact hs

end Workbench
end NodeFlow
