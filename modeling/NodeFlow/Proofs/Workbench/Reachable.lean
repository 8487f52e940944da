import NodeFlow.Proofs.Editor.Canonical
import NodeFlow.Proofs.Editor.Commands
import NodeFlow.Proofs.Execution.Writes
import NodeFlow.Proofs.Workbench.Import
import NodeFlow.Proofs.Workbench.Nodes
import NodeFlow.Proofs.Workbench.Ports

/-! # Reachable workbenches

    A workbench is reached from an empty one by operations in any order: on
    its own, of an editor, and of calls that run on it.  An import is an
    operation on two reachable workbenches, of which the second one was
    exported.  Every reachable workbench is consistent, and graph and registry
    never drift apart (`Reachable.agrees`). -/

namespace NodeFlow

/-- Whether every port of a template is admissible. -/
structure Template.Ports (ok : Port → Prop) (t : Template) : Prop where
  /-- The inputs. -/
  inputs : ∀ p ∈ t.inputs, ok p
  /-- The outputs. -/
  outputs : ∀ p ∈ t.outputs, ok p

namespace Workbench

/-- One operation on a workbench.  Ports given with it are admissible, and a
    node is added only while handles are left. -/
inductive Step (ok : Port → Prop) (w : Workbench) : Workbench → Prop where
  /-- Add a node. -/
  | addNode (nodeType : String)
      (room : w.graph.lastHandle + 1 < Graph.handleLimit) :
      Step ok w (w.addNode nodeType).2
  /-- Remove a node. -/
  | removeNode (v : Handle) : Step ok w (w.removeNode v).2
  /-- Add a dynamic input. -/
  | addDynamicInput (v : Handle) (name type : String) :
      Step ok w (w.addDynamicInput v name type).2
  /-- Remove a dynamic input. -/
  | removeDynamicInput (v : Handle) (name : String) :
      Step ok w (w.removeDynamicInput v name).2
  /-- Give a node another title and other static ports. -/
  | applyStructure (id title : String) {inputs outputs : List Port}
      (hin : ∀ p ∈ inputs, ok p) (hout : ∀ p ∈ outputs, ok p) :
      Step ok w (w.applyStructure id title inputs outputs).2
  /-- Store code. -/
  | setCode (id code language : String) (now : Timestamp) :
      Step ok w (w.setCode id code language now).2
  /-- Store a description. -/
  | setDescription (id text : String) : Step ok w (w.setDescription id text).2
  /-- Remove everything. -/
  | clear : Step ok w w.clear
  /-- Link an output to an input, if they exist. -/
  | connect (s : Handle) (i : Nat) (t : Handle) (j : Nat) :
      Step ok w { w with graph := attempt w.graph (w.graph.connect s i t j) }
  /-- An editor in any state carries out a command. -/
  | edit {d : Desk} (hd : d.bench = w) (c : Command) :
      Step ok w (d.perform c).bench
  /-- A call on an engine in any state takes a step. -/
  | run {e : Engine} (he : e.bench = w) (a : Engine.Action) :
      Step ok w (e.perform a).bench

/-- What operations lead to from an empty workbench with templates. -/
inductive Reachable (ok : Port → Prop) : Workbench → Prop where
  /-- Nothing has happened yet. -/
  | empty {templates : Table String Template}
      (h : ∀ nodeType t, templates.get? nodeType = some t → t.Ports ok) :
      Reachable ok ⟨{}, { templates := templates }⟩
  /-- One more operation. -/
  | step {w w' : Workbench} (h : Reachable ok w) (hs : Step ok w w') :
      Reachable ok w'
  /-- An import of what another workbench exports. -/
  | configure {w w' : Workbench} (h : Reachable ok w) (h' : Reachable ok w') :
      Reachable ok (w.configure w'.snapshot).2

/-! ## Consistency -/

variable {ok : Port → Prop} {view : Port → Port} {w w' : Workbench}

theorem consistent_empty {templates : Table String Template}
    (h : ∀ nodeType t, templates.get? nodeType = some t → t.Ports ok) :
    Consistent ok view ⟨{}, { templates := templates }⟩ where
  graph := Graph.wellFormed_empty
  registry := Registry.wellFormed_clear { templates := templates }
  ports := by simp
  templates nodeType id := by
    unfold Registry.newRecord
    cases ht : templates.get? nodeType with
    | none => exact ⟨by simp, by simp, by simp⟩
    | some t => exact ⟨(h _ t ht).inputs, by simp, (h _ t ht).outputs⟩
  shows := by simp [Registry.recordOf?]
  bounded := by simp

/-- What an editor saves changes one record and its node at most. -/
theorem touched_saved (hseen : Port.Seen ok view) (h : w.Consistent ok view)
    (hs : Desk.Saved w w') : Touched ok view w w' := by
  cases hs with
  | nothing => exact .refl h.graph
  | outline hparse =>
      obtain ⟨hin, hout⟩ := Structure.extra_of_parse hparse
      exact touched_applyStructure h _ _
        (fun p hp => hseen.plain p (hin p hp))
        (fun p hp => hseen.plain p (hout p hp))
  | code => exact touched_setCode h _ _ _ _
  | description => exact touched_setDescription h _ _

/-- Of the operations only a few add or remove nodes. -/
theorem Step.cases_touched (hseen : Port.Seen ok view)
    (h : w.Consistent ok view) (hs : Step ok w w') :
    Touched ok view w w'
      ∨ (∃ nodeType, w.graph.lastHandle + 1 < Graph.handleLimit
          ∧ w' = (w.addNode nodeType).2)
      ∨ (∃ v, w' = (w.removeNode v).2)
      ∨ w' = w.clear := by
  -- whatever keeps the nodes keeps what they show, too
  cases hs with
  | addNode nodeType room => exact Or.inr (Or.inl ⟨nodeType, room, rfl⟩)
  | removeNode v => exact Or.inr (Or.inr (Or.inl ⟨v, rfl⟩))
  | clear => exact Or.inr (Or.inr (Or.inr rfl))
  | addDynamicInput v name type =>
      exact Or.inl (touched_addDynamicInput hseen h v name type)
  | removeDynamicInput v name =>
      exact Or.inl (touched_removeDynamicInput hseen h v name)
  | applyStructure id title hin hout =>
      exact Or.inl (touched_applyStructure h id title hin hout)
  | setCode id code language now =>
      exact Or.inl (touched_setCode h id code language now)
  | setDescription id text => exact Or.inl (touched_setDescription h id text)
  | connect s i t j =>
      refine Or.inl ?_
      cases hg : w.graph.connect s i t j with
      | ok g => exact touched_connect h hg
      | error e => exact .refl h.graph
  | edit hd c =>
      subst hd
      exact Or.inl (touched_saved hseen h (Desk.perform_saved _ c))
  | run he a =>
      subst he
      exact Or.inl ((Engine.perform_same _ a).touched h.graph)

/-- One operation keeps graph and records in agreement. -/
theorem Consistent.step (hseen : Port.Seen ok view) (h : w.Consistent ok view)
    (hs : Step ok w w') : w'.Consistent ok view := by
  obtain ht | ⟨nodeType, room, rfl⟩ | ⟨v, rfl⟩ | rfl :=
    hs.cases_touched hseen h
  · exact h.touched ht
  · exact h.addNode nodeType room
  · exact h.removeNode v
  · exact h.clear

/-- By induction over the operations: graph and records agree in every
    workbench that they lead to. -/
theorem Reachable.consistent (hseen : Port.Seen ok view)
    (h : Reachable ok w) : w.Consistent ok view := by
  induction h with
  | empty hports => exact consistent_empty hports
  | step _ hs ih => exact ih.step hseen hs
  | configure _ _ ih ih' => exact ih.configure hseen ih'

/-! ## Every node has a record -/

/-- Whether every live node has a record. -/
def Covered (w : Workbench) : Prop :=
  ∀ v, w.graph.contains v = true → (w.registry.recordOf? v).isSome = true

theorem Covered.touched (hc : w.Covered) (ht : Touched ok view w w') :
    w'.Covered := by
  intro v hv
  rw [ht.handles] at hv
  rw [ht.registry.recordOf?_isSome]
  exact hc v hv

/-- A new node has a record. -/
theorem Covered.addNode (hc : w.Covered) (h : w.Consistent ok view)
    (nodeType : String) (room : w.graph.lastHandle + 1 < Graph.handleLimit) :
    (w.addNode nodeType).2.Covered := by
  rw [addNode_snd w nodeType room]
  intro v hv
  rw [h.registry.recordOf?_add h.index_fresh (h.room room)]
  split
  · rfl
  · rename_i hne
    change (w.graph.addNode _ _ _ _).2.nodes.contains v = true at hv
    rw [Graph.addNode_snd _ _ _ _ _ room, Table.contains_insert] at hv
    have hold : w.graph.nodes.contains v = true := by simpa [hne] using hv
    exact hc v hold

theorem Covered.removeNode (hc : w.Covered) (h : w.Consistent ok view)
    (v : Handle) : (w.removeNode v).2.Covered := by
  intro u hu
  show ((w.registry.remove v).2.recordOf? u).isSome = true
  rw [Registry.recordOf?_remove h.registry]
  obtain ⟨n, hn⟩ := Graph.contains_iff.mp hu
  change (w.graph.removeNode v).2.nodes.get? u = some n at hn
  by_cases huv : u = v
  · -- a node that has been removed is not live
    subst huv
    unfold Graph.removeNode at hn
    split at hn
    · rw [Table.get?_erase, if_pos rfl] at hn
      cases hn
    · rename_i hnot
      exact absurd (Graph.contains_iff.mpr ⟨n, hn⟩) hnot
  · rw [if_neg huv]
    rw [get?_removeNode w.graph huv] at hn
    exact hc u (Graph.contains_iff.mpr ⟨n, hn⟩)

/-- What is exported has a record for every node, so a workbench has one after
    it is read. -/
theorem Covered.configure (hc : w.Covered) (hc' : w'.Covered)
    (h' : w'.Consistent ok view) : (w.configure w'.snapshot).2.Covered := by
  -- an import that is refused changes nothing
  obtain ⟨e, he⟩ | ⟨r, hr, hi, -⟩ := configure_snapshot h' w
  · rw [he]
    exact hc
  · rw [hr]
    intro v hv
    obtain ⟨m, hm⟩ := Graph.contains_iff.mp hv
    obtain ⟨n, hn, -⟩ := Graph.get?_reread.mp hm
    show (r.recordOf? v).isSome = true
    rw [hi.recordOf?_eq h'.registry]
    exact hc' v (Graph.contains_iff.mpr ⟨n, hn⟩)

/-- By induction over the operations: every live node has a record. -/
theorem Reachable.covered (hseen : Port.Seen ok view) (h : Reachable ok w) :
    w.Covered := by
  induction h with
  | empty => exact fun v hv => by simp [Graph.contains, Table.contains] at hv
  | step h hs ih =>
      have hcons := h.consistent hseen
      obtain ht | ⟨nodeType, room, rfl⟩ | ⟨v, rfl⟩ | rfl :=
        hs.cases_touched hseen hcons
      · exact ih.touched ht
      · exact ih.addNode hcons nodeType room
      · exact ih.removeNode hcons v
      · exact fun v hv => by
          simp [clear, Graph.contains, Table.contains] at hv
  | configure _ h' ih ih' => exact ih.configure ih' (h'.consistent hseen)

/-! ## Graph and registry -/

/-- Graph and registry have not drifted apart. -/
structure Agrees (w : Workbench) : Prop where
  /-- A live node has a record, which is not removed and linked to this node,
      as no other record is; the node shows what the record says. -/
  node : ∀ v n, w.graph.nodes.get? v = some n →
    ∃ x, w.registry.recordOf? v = some x
      ∧ x.removed = false
      ∧ w.registry.handleOf? x.id = some v
      ∧ (∀ id, w.registry.handleOf? id = some v → id = x.id)
      ∧ n.title = x.title
      ∧ n.inputs = x.inputs ++ x.dynamicInputs
      ∧ n.outputs = x.outputs
  /-- A record that is not removed is that of one live node. -/
  record : ∀ id x, w.registry.record? id = some x → x.removed = false →
    ∃ v, w.graph.contains v = true
      ∧ w.registry.recordOf? v = some x
      ∧ w.registry.handleOf? id = some v
      ∧ ∀ u, w.registry.recordOf? u = some x → u = v
  /-- Dynamic inputs have names of their own. -/
  names : ∀ id x, w.registry.record? id = some x →
    (x.dynamicInputs.map Port.name).Nodup
      ∧ ∀ d ∈ x.dynamicInputs, ∀ p ∈ x.inputs, d.name ≠ p.name

/-- Of ports whose options are kept everything may be seen. -/
theorem seen_kept : Port.Seen Port.Kept id where
  name _ := rfl
  plain p hp := by simp [Port.Kept, hp]
  reread p hp := hp.reread
  congr p q hpq := by
    cases hpq
    rfl

/-- As much of a port as an export keeps may always be seen. -/
theorem seen_reread : Port.Seen (fun _ => True) Port.reread where
  name _ := rfl
  plain _ _ := trivial
  reread p _ := by simp [Port.reread, Option.filter_filter]
  congr p q hpq := congrArg Port.reread hpq

/-- Graph and registry agree in every workbench that is reached with ports
    whose options are kept. -/
theorem Reachable.agrees (h : Reachable Port.Kept w) : w.Agrees := by
  have hcons := h.consistent seen_kept
  have hreg := hcons.registry
  have hcovered := h.covered seen_kept
  constructor
  · -- every node has a record, and consistency says what the two share
    intro v n hn
    obtain ⟨x, hx⟩ := Option.isSome_iff_exists.mp
      (hcovered v (Graph.contains_iff.mpr ⟨n, hn⟩))
    obtain ⟨m, hm, hshow⟩ := hcons.shows v x hx
    rw [hn] at hm
    cases hm
    obtain ⟨-, hlink⟩ := hreg.recordOf?_eq_some_iff.mp hx
    have hin : n.inputs = x.liveInputs := by simpa using hshow.inputs
    refine ⟨x, hx, hreg.removed_of_recordOf? hx, hlink, ?_, hshow.title,
      hin, by simpa using hshow.outputs⟩
    intro id hid
    have hindex := (hreg.inverse v id).mpr hid
    rw [(hreg.inverse v x.id).mpr hlink] at hindex
    exact (Option.some.inj hindex).symm
  · -- a record that is not removed is linked, and its node is live
    intro id x hx hrem
    have hname := hreg.named id x hx
    obtain ⟨v, hv⟩ := (hreg.linked id).mpr ⟨x, hx, hrem⟩
    have hof : w.registry.recordOf? v = some x :=
      hreg.recordOf?_eq_some_iff.mpr ⟨hname.symm ▸ hx, hname.symm ▸ hv⟩
    obtain ⟨n, hn, -⟩ := hcons.shows v x hof
    exact ⟨v, Graph.contains_iff.mpr ⟨n, hn⟩, hof, hv,
      fun u hu => hreg.recordOf?_inj hu hof rfl⟩
  · intro id x hx
    exact ⟨(hreg.inputs id x hx).dynamic, (hreg.inputs id x hx).apart⟩

/-- A sum with a third input. -/
theorem agrees_sum :
    let w : Workbench :=
      ⟨{}, { templates := Table.empty.insert "math/sum" Template.sum }⟩
    let w' := ((w.addNode "math/sum").2.addDynamicInput 1 "c" "number").2
    Reachable Port.Kept w' ∧ w'.graph.contains 1 = true ∧ w'.Agrees := by
  intro w w'
  have hempty : Reachable Port.Kept w := by
    refine .empty (fun nodeType t ht => ?_)
    rw [Table.get?_insert] at ht
    split at ht
    · cases ht
      exact ⟨by simp [Template.sum, Port.Kept],
        by simp [Template.sum, Port.Kept]⟩
    · cases ht
  have h : Reachable Port.Kept w' :=
    (hempty.step (.addNode "math/sum" (by decide))).step
      (.addDynamicInput 1 "c" "number")
  exact ⟨h, by decide, h.agrees⟩

end Workbench
end NodeFlow
