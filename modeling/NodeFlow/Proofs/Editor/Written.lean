import NodeFlow.Proofs.Editor.Groups
import NodeFlow.Proofs.Workbench.Ports

/-! # What saving a text writes

    A text that is saved as a side of a node changes one record, and of that
    only the fields of this side.  With title and ports its live node changes
    as well; other nodes, and the links between them, stay as they are
    (`wrote_of_save`). -/

namespace NodeFlow

/-- The graph once the live node of a record shows another title and other
    ports, if there is such a node. -/
inductive Graph.Reshown (g : Graph) (title : String) (ins outs : List Port) :
    Option Handle → Graph → Prop
  /-- The record has no node. -/
  | unlinked : Reshown g title ins outs none g
  /-- Its node does not exist. -/
  | dead {v : Handle} (hv : g.contains v = false) :
      Reshown g title ins outs (some v) g
  /-- Its node loses its values and links, and is marked. -/
  | live {v : Handle} {n : LiveNode} (hv : g.nodes.get? v = some n) :
      Reshown g title ins outs (some v)
        { g with
          nodes :=
            g.nodes.insert v
              { n with
                title := title
                inputs := ins
                outputs := outs
                values := List.replicate outs.length none }
          links := g.links.filter (fun l => !l.touches v)
          dirty := g.dirty.insert v () }

/-- The workbench once a text has been saved as a side of a node. -/
inductive Workbench.Wrote (w : Workbench) (clock : Timestamp) (id text : String) :
    Mode → Workbench → Prop
  /-- Title and ports are written to record and node.  Dynamic inputs go that
      have the name of a static one. -/
  | outline {x : Record} {s : Structure} {kept : List Port} {g : Graph}
      (hx : w.liveRecord? id = some x) (hs : Structure.parse text = .ok s)
      (hkept : kept = x.dynamicInputs.filter
        (fun d => !s.inputs.any (fun p => p.name == d.name)))
      (hg : w.graph.Reshown s.title (s.inputs ++ kept) s.outputs
        (w.registry.handleOf? id) g) :
      Wrote w clock id text .outline
        { graph := g
          registry := { w.registry with
            records :=
              w.registry.records.insert id
                { x with
                  title := s.title
                  inputs := s.inputs
                  outputs := s.outputs
                  dynamicInputs := kept } } }
  /-- The code is written, and kept as saved code. -/
  | code {x : Record} (hx : w.liveRecord? id = some x) :
      Wrote w clock id text .code
        { graph := w.graph
          registry := { w.registry with
            records :=
              w.registry.records.insert id
                { x with
                  properties :=
                    x.properties.insert Record.codeKey (.str text) }
            code :=
              w.registry.code.insert id ⟨text, x.codeLanguage, clock⟩ } }
  /-- The description is written. -/
  | description {x : Record} (hx : w.liveRecord? id = some x) :
      Wrote w clock id text .description
        { graph := w.graph
          registry := { w.registry with
            records :=
              w.registry.records.insert id
                { x with
                  properties :=
                    x.properties.insert Record.descriptionKey
                      (.str text) } } }

namespace Workbench

variable {w : Workbench} {id : String}

theorem reshown_showStructure (g : Graph) (v : Handle) (title : String)
    (x : Record) :
    g.Reshown title x.liveInputs x.outputs (some v)
      (showStructure g v title x) := by
  cases hv : g.nodes.get? v with
  | none =>
      -- both writes fail, and a node that does not exist is not marked
      have hdead : g.contains v = false := Table.contains_eq_false_iff.mpr hv
      have hports : g.replacePorts v x.liveInputs x.outputs
          = .error (.unknownHandle v) := by
        unfold Graph.replacePorts Graph.node
        rw [hv]
        rfl
      have hsame : showStructure g v title x = g.mark v := by
        unfold showStructure
        rw [hports]
        rfl
      rw [hsame, Graph.mark, if_neg (by simp [hdead])]
      exact .dead hdead
  | some n =>
      obtain ⟨g₁, g₂, hports, htitle, heq, -⟩ := showStructure_eq hv title x
      obtain ⟨m, hm, rfl⟩ := Graph.replacePorts_eq_ok_iff.mp hports
      obtain ⟨k, hk, rfl⟩ := Graph.setTitle_eq_ok_iff.mp htitle
      rw [Graph.putNode_nodes, Table.get?_insert, if_pos rfl] at hk
      -- the title is written to the node that has its new ports
      cases Option.some.inj (hv.symm.trans hm)
      cases hk
      rw [heq, Graph.mark_putNode, Graph.putNode_putNode, Graph.putNode_eq]
      exact Graph.Reshown.live (n := n) hv

/-! ## Records -/

theorem update_of_some {r : Registry} {x : Record}
    (hx : r.records.get? id = some x) (f : Record → Record) :
    (r.update id f).2 = { r with records := r.records.insert id (f x) } := by
  have hid : r.records.contains id = true := Table.contains_iff.mpr ⟨x, hx⟩
  unfold Registry.update Table.modify
  rw [if_pos hid, hx]

/-- The record with one more text property. -/
theorem withProperties_singleton (x : Record) (key text : String) :
    x.withProperties (Table.ofList [(key, .str text)])
      = { x with properties := x.properties.insert key (.str text) } := rfl

theorem setCode_of_some {x : Record}
    (hx : w.registry.records.get? id = some x) (text language : String)
    (now : Timestamp) :
    (w.setCode id text language now).2
      = { graph := w.graph
          registry := { w.registry with
            records :=
              w.registry.records.insert id
                { x with
                  properties :=
                    x.properties.insert Record.codeKey (.str text) }
            code := w.registry.code.insert id ⟨text, language, now⟩ } } := by
  have hid : w.registry.records.contains id = true :=
    Table.contains_iff.mpr ⟨x, hx⟩
  unfold setCode Registry.updateProperties Registry.saveCode
  simp only [Registry.update_fst, hid, if_true, update_of_some hx,
    withProperties_singleton, Table.contains_insert, decide_true, Bool.true_or]

theorem setDescription_of_some {x : Record}
    (hx : w.registry.records.get? id = some x) (text : String) :
    (w.setDescription id text).2
      = { graph := w.graph
          registry := { w.registry with
            records :=
              w.registry.records.insert id
                { x with
                  properties :=
                    x.properties.insert Record.descriptionKey
                      (.str text) } } } := by
  unfold setDescription Registry.updateProperties
  simp only [update_of_some hx, withProperties_singleton]

theorem applyStructure_of_some {x : Record}
    (hx : w.registry.records.get? id = some x) (title : String)
    (ins outs : List Port) :
    ∃ g, w.graph.Reshown title (Registry.restructured title ins outs x).liveInputs
        outs (w.registry.handleOf? id) g
      ∧ (w.applyStructure id title ins outs).2
        = { graph := g
            registry := { w.registry with
              records :=
                w.registry.records.insert id
                  (Registry.restructured title ins outs x) } } := by
  rw [applyStructure_snd, hx, Registry.setStructure, update_of_some hx]
  refine ⟨_, ?_, rfl⟩
  unfold Registry.handleOf?
  cases w.registry.links.get? id with
  | none => exact .unlinked
  | some v =>
      exact reshown_showStructure w.graph v title
        (Registry.restructured title ins outs x)

/-- Whatever is saved is written where it belongs. -/
theorem wrote_of_save {clock : Timestamp} {mode : Mode} {text : String}
    (h : (w.save clock id mode text).1 = .committed) :
    w.Wrote clock id text mode (w.save clock id mode text).2 := by
  unfold save at h ⊢
  split at h
  · -- a blank text is not saved
    cases h
  · rename_i hblank
    rw [if_neg hblank]
    cases hx : w.liveRecord? id with
    -- nor is any text to a record that is not there
    | none =>
        rw [hx] at h
        cases h
    | some x =>
        have hrec : w.registry.records.get? id = some x :=
          (Option.filter_eq_some_iff.mp hx).1
        simp only [hx] at h ⊢
        cases mode with
        | outline =>
            cases hs : Structure.parse text with
            -- a text that is no structure is refused
            | error e => simp [hs] at h
            | ok s =>
                obtain ⟨g, hg, heq⟩ :=
                  applyStructure_of_some hrec s.title s.inputs s.outputs
                simp only [heq]
                exact .outline hx hs rfl hg
        | code =>
            simp only [setCode_of_some hrec]
            exact .code hx
        | description =>
            simp only [setDescription_of_some hrec]
            exact .description hx

/-- What is not saved is not written anywhere. -/
theorem save_of_ne_committed {clock : Timestamp} {mode : Mode} {text : String}
    (h : (w.save clock id mode text).1 ≠ .committed) :
    (w.save clock id mode text).2 = w := by
  unfold save at h ⊢
  split
  · rfl
  · rename_i hblank
    rw [if_neg hblank] at h
    cases hx : w.liveRecord? id with
    | none => rfl
    | some x =>
        simp only [hx] at h ⊢
        cases mode with
        | outline =>
            cases hs : Structure.parse text with
            | error e => rfl
            | ok s => simp [hs] at h
        | code => exact absurd rfl h
        | description => exact absurd rfl h

end Workbench
end NodeFlow
