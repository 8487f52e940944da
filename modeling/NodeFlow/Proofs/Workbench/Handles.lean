import Mathlib.Logic.Relation
import NodeFlow.Proofs.Workbench.Reachable

/-! # Handles are given once

    As long as handles are counted on, the handle of a node that was removed
    is given to no other node, whatever happens to the workbench
    (`Retired.onward`).  Nothing is assumed of the workbench.  What `Onward`
    leaves out of all changes (`Change`) is a clear or an import that sets the
    count back, and an import that brings a node with that very handle. -/

namespace NodeFlow

namespace Graph

/-- Whether two graphs have the same live nodes and give the same handle
    next. -/
structure SameHandles (g g' : Graph) : Prop where
  /-- The same handle was given last. -/
  lastHandle : g'.lastHandle = g.lastHandle
  /-- The same nodes are live. -/
  contains : ∀ v, g'.contains v = g.contains v

variable {g g' k : Graph} {v : Handle} {n m : LiveNode}

theorem SameHandles.refl (g : Graph) : SameHandles g g := ⟨rfl, fun _ => rfl⟩

theorem SameHandles.trans (h : SameHandles g g') (h' : SameHandles g' k) :
    SameHandles g k :=
  ⟨h'.lastHandle.trans h.lastHandle,
    fun v => (h'.contains v).trans (h.contains v)⟩

/-- Values and marks have no say in the handles. -/
theorem sameHandles_of_blank (h : g'.blank = g.blank) : SameHandles g g' :=
  ⟨lastHandle_eq_of_blank h, contains_eq_of_blank h⟩

/-- A live node may change. -/
theorem sameHandles_putNode (hn : g.nodes.get? v = some n) :
    SameHandles g (g.putNode v m) where
  lastHandle := putNode_lastHandle g v m
  contains u := by
    unfold Graph.contains Table.contains
    rw [putNode_nodes, Table.get?_insert]
    split
    · rename_i hu
      rw [hu, hn]
      rfl
    · rfl

theorem sameHandles_attempt {change : Except ModelError Graph}
    (h : ∀ g', change = .ok g' → SameHandles g g') :
    SameHandles g (Workbench.attempt g change) := by
  cases hc : change with
  | ok g' => exact h g' hc
  | error _ => exact .refl g

theorem sameHandles_showStructure (g : Graph) (v : Handle) (title : String)
    (x : Record) :
    SameHandles g (Workbench.showStructure g v title x) := by
  cases hn : g.nodes.get? v with
  | none =>
      have hrefused : g.replacePorts v x.liveInputs x.outputs
          = .error (.unknownHandle v) := by
        unfold replacePorts node
        rw [hn]
        rfl
      have hdead : g.contains v = false := Table.contains_eq_false_iff.mpr hn
      unfold Workbench.showStructure
      rw [hrefused]
      show SameHandles g (g.mark v)
      unfold mark
      rw [hdead]
      exact .refl g
  | some n =>
      obtain ⟨g₁, g₂, -, -, hshown, hnodes, hlast⟩ :=
        Workbench.showStructure_eq hn title x
      rw [hshown]
      refine ⟨hlast, fun u => ?_⟩
      unfold Graph.contains Table.contains
      rw [hnodes]
      split
      · rename_i hu
        rw [hu, hn]
        rfl
      · rfl

/-- A node that is removed does not give its handle back. -/
theorem lastHandle_removeNode (g : Graph) (v : Handle) :
    (g.removeNode v).2.lastHandle = g.lastHandle := by
  unfold removeNode
  split <;> rfl

/-- The live nodes but for one. -/
theorem contains_removeNode (g : Graph) (v u : Handle) :
    (g.removeNode v).2.contains u = (decide (u ≠ v) && g.contains u) := by
  unfold removeNode
  split
  · show (g.nodes.erase v).contains u = _
    unfold Graph.contains Table.contains
    rw [Table.get?_erase]
    split <;> simp [*]
  · rename_i hdead
    by_cases hu : u = v
    · simp [hu, hdead]
    · simp [hu]

end Graph

namespace Workbench

variable {ok : Port → Prop} {w w' : Workbench} {v : Handle}

open NodeFlow.Graph (SameHandles)

/-! ## Operations that give no handle -/

theorem sameHandles_addDynamicInput (w : Workbench) (v : Handle)
    (name type : String) :
    SameHandles w.graph (w.addDynamicInput v name type).2.graph := by
  unfold addDynamicInput
  split
  · exact .refl _
  · simp only
    split
    · refine Graph.sameHandles_attempt (fun g' hg => ?_)
      obtain ⟨n, hn, rfl⟩ := Graph.addInput_eq_ok_iff.mp hg
      exact Graph.sameHandles_putNode hn
    · exact .refl _

theorem sameHandles_removeDynamicInput (w : Workbench) (v : Handle)
    (name : String) :
    SameHandles w.graph (w.removeDynamicInput v name).2.graph := by
  unfold removeDynamicInput
  split
  · exact .refl _
  · simp only
    split
    · refine Graph.sameHandles_attempt (fun g' hg => ?_)
      cases hr : w.graph.removeInput v name with
      | error _ =>
          rw [hr] at hg
          cases hg
      | ok result =>
          obtain ⟨removed, k⟩ := result
          obtain ⟨n, hn, ⟨-, -, rfl⟩ | ⟨slot, -, -, rfl⟩⟩ :=
            Graph.removeInput_eq_ok_iff.mp hr
          · rw [hr] at hg
            cases hg
            exact .refl _
          · rw [hr] at hg
            cases hg
            -- which links are left has no part in this
            exact (⟨rfl, fun _ => rfl⟩ :
              SameHandles w.graph (w.graph.closeSlot v slot)).trans
                (Graph.sameHandles_putNode hn)
    · exact .refl _

theorem sameHandles_applyStructure (w : Workbench) (id title : String)
    (ins outs : List Port) :
    SameHandles w.graph (w.applyStructure id title ins outs).2.graph := by
  rw [applyStructure_snd]
  simp only
  split
  · exact Graph.sameHandles_showStructure _ _ _ _
  · exact .refl _

theorem setCode_graph (w : Workbench) (id code language : String)
    (now : Timestamp) :
    (w.setCode id code language now).2.graph = w.graph := by
  unfold setCode
  simp only
  split <;> rfl

/-- Whatever an editor saves changes no handle. -/
theorem sameHandles_saved (hs : Desk.Saved w w') :
    SameHandles w.graph w'.graph := by
  cases hs with
  | nothing => exact .refl _
  | outline => exact w.sameHandles_applyStructure _ _ _ _
  | code => exact w.setCode_graph _ _ _ _ ▸ .refl _
  | description => exact .refl _

/-- Of the operations only a few add or remove nodes. -/
theorem Step.cases_sameHandles (hs : Step ok w w') :
    SameHandles w.graph w'.graph
      ∨ (∃ nodeType, w.graph.lastHandle + 1 < Graph.handleLimit
          ∧ w' = (w.addNode nodeType).2)
      ∨ (∃ v, w' = (w.removeNode v).2)
      ∨ w' = w.clear := by
  cases hs with
  | addNode nodeType room => exact Or.inr (Or.inl ⟨nodeType, room, rfl⟩)
  | removeNode v => exact Or.inr (Or.inr (Or.inl ⟨v, rfl⟩))
  | clear => exact Or.inr (Or.inr (Or.inr rfl))
  | addDynamicInput v name type =>
      exact Or.inl (w.sameHandles_addDynamicInput v name type)
  | removeDynamicInput v name =>
      exact Or.inl (w.sameHandles_removeDynamicInput v name)
  | applyStructure id title =>
      exact Or.inl (w.sameHandles_applyStructure id title _ _)
  | setCode id code language now =>
      exact Or.inl (w.setCode_graph id code language now ▸ .refl _)
  | setDescription => exact Or.inl (.refl _)
  | connect s i t j =>
      refine Or.inl (Graph.sameHandles_attempt (fun g' hg => ?_))
      obtain ⟨-, -, -, rfl⟩ := Graph.connect_eq_ok_iff.mp hg
      exact ⟨rfl, fun _ => rfl⟩
  | edit hd c =>
      subst hd
      exact Or.inl (sameHandles_saved (Desk.perform_saved _ c))
  | run he a =>
      subst he
      exact Or.inl (Graph.sameHandles_of_blank (Engine.perform_same _ a).blank)

/-! ## Nodes that are gone for good -/

/-- Whether a handle was given to a node that is not live any more. -/
structure Retired (v : Handle) (w : Workbench) : Prop where
  /-- The handle was given. -/
  given : v ≤ w.graph.lastHandle
  /-- No live node has it. -/
  gone : w.graph.contains v = false

/-- One more operation on a workbench: one of those that lead on from an empty
    one, or an import of any snapshot. -/
inductive Change (w : Workbench) : Workbench → Prop where
  /-- An operation. -/
  | step {w' : Workbench} (hs : Step (fun _ => True) w w') : Change w w'
  /-- An import, whether it comes to its end or not. -/
  | configure (s : Snapshot) : Change w (w.configure s).2

/-- One more operation, after which a handle that was given still counts as
    given and has not come back with an import.  Only a clear and an import
    can be anything else. -/
inductive Onward (v : Handle) (w : Workbench) : Workbench → Prop where
  /-- An operation that does not set the count of handles back below this
      one. -/
  | step {w' : Workbench} (hs : Step (fun _ => True) w w')
      (given : v ≤ w'.graph.lastHandle) : Onward v w w'
  /-- An import that does not do so either and brings no node with this
      handle. -/
  | configure (s : Snapshot) (given : v ≤ (w.configure s).2.graph.lastHandle)
      (gone : (w.configure s).2.graph.contains v = false) :
      Onward v w (w.configure s).2

/-- A node that is removed was given its handle and is not live any more. -/
theorem retired_removeNode (hv : v ≤ w.graph.lastHandle) :
    Retired v (w.removeNode v).2 where
  given := (w.graph.lastHandle_removeNode v).symm ▸ hv
  gone := by
    show (w.graph.removeNode v).2.contains v = false
    rw [Graph.contains_removeNode]
    simp

/-- No operation brings a node back as long as handles are counted on. -/
theorem Retired.step (h : Retired v w) (ho : Onward v w w') :
    Retired v w' := by
  cases ho with
  | configure s given gone => exact ⟨given, gone⟩
  | step hs given =>
      refine ⟨given, ?_⟩
      obtain hsame | ⟨nodeType, room, rfl⟩ | ⟨u, rfl⟩ | rfl :=
        hs.cases_sameHandles
      · rw [hsame.contains, h.gone]
      · -- a new node has a handle that was not given before
        have hne : v ≠ w.graph.lastHandle + 1 :=
          Nat.ne_of_lt (Nat.lt_succ_of_le h.given)
        rw [w.addNode_snd nodeType room, Graph.addNode_snd _ _ _ _ _ room]
        show (w.graph.nodes.insert _ _).contains v = false
        rw [Table.contains_eq_false_iff, Table.get?_insert, if_neg hne]
        exact Table.contains_eq_false_iff.mp h.gone
      · show (w.graph.removeNode u).2.contains v = false
        rw [Graph.contains_removeNode, h.gone, Bool.and_false]
      · rfl

/-- By induction over the operations: the handle of a removed node stays
    retired. -/
theorem Retired.onward (h : Retired v w)
    (ho : Relation.ReflTransGen (Onward v) w w') : Retired v w' := by
  -- one operation after the other, from the removal on
  induction ho with
  | refl => exact h
  | tail _ hs ih => exact ih.step hs

end Workbench
end NodeFlow
