import NodeFlow.Proofs.Graph.Order
import NodeFlow.Proofs.Json.Compact
import NodeFlow.Proofs.Snapshot
import NodeFlow.Proofs.Workbench.Reachable

/-! # Saving a workflow and opening it again

    A reachable workbench is exported, the export is written to a file and
    read from it, and any workbench takes it in.  It agrees with the first one
    then in all that an export keeps, and so is exported as the same again
    (`Reachable.save_load_configure`).  What is lost are values, marks,
    removed records and the number that the next record would have had.

    That a text is read as the value that it was printed from is assumed: of
    real numbers the last digit may differ, and nesting may be too deep. -/

namespace NodeFlow.Workbench

variable {w w' : Workbench} {r' : Registry}

/-- Whether numbers and times in a workbench are what a machine holds: places
    of ports have 64 bits, and there is every time at which code was saved. -/
structure Representable (w : Workbench) : Prop where
  /-- The places of linked ports. -/
  slots : ∀ l ∈ w.graph.links,
    l.sourceSlot < 2 ^ 64 ∧ l.targetSlot < 2 ^ 64
  /-- The times. -/
  times : ∀ id c, w.registry.code.get? id = some c → c.lastModified.Valid

/-- Whether a workbench `w'` agrees with `w` in all that an export keeps, and
    has nothing on any output and no marks. -/
structure Restores (w w' : Workbench) : Prop where
  /-- It is exported as the same. -/
  snapshot : w'.snapshot = w.snapshot
  /-- The records that are not removed, in order. -/
  live : w'.registry.live = w.registry.live
  /-- The node of each record. -/
  links : w'.registry.links = w.registry.links
  /-- The record of each node. -/
  recordOf? : ∀ v, w'.registry.recordOf? v = w.registry.recordOf? v
  /-- Saved code. -/
  code : w'.registry.code = w.registry.code
  /-- The title of each node. -/
  title? : ∀ v, w'.graph.title? v = w.graph.title? v
  /-- The inputs of each node. -/
  inputs? : ∀ v, w'.graph.inputs? v = w.graph.inputs? v
  /-- The outputs of each node. -/
  outputs? : ∀ v, w'.graph.outputs? v = w.graph.outputs? v
  /-- The links of the graph, in order. -/
  graphLinks : w'.graph.links = w.graph.links
  /-- The nodes, in order of execution. -/
  order : w'.graph.order = w.graph.order
  /-- The next handle. -/
  nextHandle : ∀ nodeType title inputs outputs,
    (w'.graph.addNode nodeType title inputs outputs).1
      = (w.graph.addNode nodeType title inputs outputs).1
  /-- No output holds a value. -/
  values : ∀ v i, w'.graph.outputData? v i = none
  /-- No node is marked. -/
  dirty : w'.graph.dirty = Table.empty

/-- The ports of live nodes keep their options. -/
theorem Reachable.kept (h : Reachable Port.Kept w) (v : Handle) (n : LiveNode)
    (hn : w.graph.nodes.get? v = some n) :
    (∀ p ∈ n.inputs, p.Kept) ∧ ∀ p ∈ n.outputs, p.Kept := by
  have hcons := h.consistent seen_kept
  obtain ⟨x, hx⟩ := Option.isSome_iff_exists.mp
    (h.covered seen_kept v (Graph.contains_iff.mpr ⟨n, hn⟩))
  -- a node shows the ports of its record, and those keep them
  obtain ⟨m, hm, hshow⟩ := hcons.shows v x hx
  rw [hn] at hm
  cases hm
  obtain ⟨hrec, -⟩ := hcons.registry.recordOf?_eq_some_iff.mp hx
  have hports := hcons.ports x.id x hrec
  have hin : n.inputs = x.liveInputs := by simpa using hshow.inputs
  have hout : n.outputs = x.outputs := by simpa using hshow.outputs
  refine ⟨?_, hout ▸ hports.outputs⟩
  intro p hp
  rw [hin] at hp
  rcases List.mem_append.mp hp with hp | hp
  · exact hports.inputs p hp
  · exact hports.dynamic p hp

/-- What a reachable workbench exports can be written and read. -/
theorem Reachable.readable (h : Reachable Port.Kept w)
    (hw : w.Representable) : w.snapshot.Readable where
  ports x hx := by
    have hcons := h.consistent seen_kept
    exact hcons.ports x.id x (hcons.registry.mem_live_iff.mp hx).1
  handles id v hv := by
    have hcons := h.consistent seen_kept
    rw [snapshot, get?_exportLinks hcons.registry] at hv
    -- a linked node is live, and so its handle was given
    obtain ⟨x, hx, -⟩ := (hcons.registry.linked id).mp ⟨v, hv⟩
    have hid := hcons.registry.named id x hx
    obtain ⟨n, hn, -⟩ := hcons.shows v x
      (hcons.registry.recordOf?_eq_some_iff.mpr ⟨hid.symm ▸ hx, hid.symm ▸ hv⟩)
    exact Nat.lt_of_le_of_lt (hcons.graph.bounded v n hn)
      hcons.graph.lastHandle
  times := hw.times

/-- Values and marks are not part of an export, and removed records are not
    either. -/
theorem Imported.snapshot_blank (h : w.registry.WellFormed)
    (hi : Imported w.registry r') (hcode : r'.code = w.registry.code) :
    Workbench.snapshot ⟨w.graph.blank, r'⟩ = w.snapshot := by
  have hlinks : exportLinks r' r'.live
      = exportLinks w.registry w.registry.live := by
    refine Table.ext_get? (fun id => Option.ext (fun v => ?_))
    rw [get?_exportLinks (hi.wellFormed h), get?_exportLinks h, hi.links]
  unfold snapshot
  rw [Graph.toJson_blank, hlinks, hi.live_eq h, hcode]

/-- A graph without values and marks, and the records that were taken in from
    an export, agree with what was exported. -/
theorem Imported.restores (h : w.registry.WellFormed)
    (hi : Imported w.registry r') (hcode : r'.code = w.registry.code) :
    Restores w ⟨w.graph.blank, r'⟩ where
  snapshot := hi.snapshot_blank h hcode
  live := hi.live_eq h
  links := Table.ext_get? hi.links
  recordOf? := hi.recordOf?_eq h
  code := hcode
  title? v := by
    unfold Graph.title? Graph.blank
    rw [Table.get?_mapValues, Option.map_map]
    rfl
  inputs? v := by
    unfold Graph.inputs? Graph.blank
    rw [Table.get?_mapValues, Option.map_map]
    rfl
  outputs? v := by
    unfold Graph.outputs? Graph.blank
    rw [Table.get?_mapValues, Option.map_map]
    rfl
  graphLinks := rfl
  order := Graph.order_blank w.graph
  nextHandle _ _ _ _ := rfl
  values v i := by
    unfold Graph.outputData? Graph.blank
    rw [Table.get?_mapValues]
    cases w.graph.nodes.get? v with
    | none => rfl
    | some n =>
        simp only [LiveNode.clearValues, Option.map_some,
          Option.bind_eq_bind, Option.bind_some]
        rw [List.getElem?_replicate]
        split <;> rfl
  dirty := rfl

/-- Saving a reachable workbench and opening the file in any workbench
    restores it. -/
theorem Reachable.save_load_configure (h : Reachable Port.Kept w)
    (hw : w.Representable)
    (htext : Json.readAs WorkflowFile.shape (WorkflowFile.text w.snapshot)
      = some (WorkflowFile.toJson w.snapshot))
    {t : FileTree} {path : String} (hpath : WorkflowFile.Takes t path)
    (w₀ : Workbench) :
    ∃ t', (WorkflowFile.save path w.snapshot : StateM FileTree _).run t
        = (.ok (), t')
      ∧ (WorkflowFile.load path : StateM FileTree _).run t'
        = (.ok w.snapshot, t')
      ∧ ∃ w', w₀.configure w.snapshot = (.ok (), w')
        ∧ w'.registry.templates = w₀.registry.templates
        ∧ Restores w w' := by
  obtain ⟨t', hsave, hload⟩ :=
    WorkflowFile.load_of_save (h.readable hw) htext hpath
  have hcons := h.consistent seen_kept
  obtain ⟨r', hconfigure, hi, hcode, htemplates⟩ :=
    configure_of_read hcons (hcons.graph.configure_toJson_eq hw.slots) w₀
  refine ⟨t', hsave, hload, _, hconfigure, htemplates, ?_⟩
  rw [Graph.reread_eq_blank h.kept]
  exact hi.restores hcons.registry hcode

/-- A node with ports and saved code, opened where other templates are. -/
theorem save_load_configure_coded :
    let ports : List Port := [⟨"a", "number", none⟩]
    let w : Workbench := ⟨{}, { templates := Table.empty }⟩
    let w := (w.addNode "sum").2
    let w := (w.applyStructure "1" "Sum" ports ports).2
    let w := (w.setCode "1" "return a;" "javascript" ⟨0, 0⟩).2
    Reachable Port.Kept w ∧ w.Representable
      ∧ Json.readAs WorkflowFile.shape (WorkflowFile.text w.snapshot)
        = some (WorkflowFile.toJson w.snapshot)
      ∧ WorkflowFile.Takes {} "flows/sum.json"
      ∧ ∃ t', (WorkflowFile.save "flows/sum.json" w.snapshot
            : StateM FileTree _).run {} = (.ok (), t')
        ∧ (WorkflowFile.load "flows/sum.json" : StateM FileTree _).run t'
          = (.ok w.snapshot, t')
        ∧ ∃ w', Workbench.configure {} w.snapshot = (.ok (), w')
          ∧ w'.registry.templates = Registry.builtin.templates
          ∧ Restores w w' := by
  intro ports empty added shaped w
  have hports : ∀ p ∈ ports, p.Kept := by simp [ports, Port.Kept]
  have h : Reachable Port.Kept w :=
    (((Reachable.empty (by simp)).step (.addNode "sum" (by decide))).step
      (.applyStructure "1" "Sum" hports hports)).step
        (.setCode "1" "return a;" "javascript" ⟨0, 0⟩)
  have hw : w.Representable := by
    have hlinks : w.graph.links = [] := by decide +kernel
    have hcode : w.registry.code
        = Table.empty.insert "1" ⟨"return a;", "javascript", ⟨0, 0⟩⟩ := by
      decide +kernel
    constructor
    · simp [hlinks]
    · intro id c hc
      rw [hcode, Table.get?_insert] at hc
      split at hc
      · cases hc
        exact ⟨by decide, by decide, Or.inl (by decide)⟩
      · cases hc
  have htext : Json.readAs WorkflowFile.shape (WorkflowFile.text w.snapshot)
      = some (WorkflowFile.toJson w.snapshot) := by
    unfold WorkflowFile.text
    rw [Json.readAs_indented]
    decide +kernel
  have hpath : WorkflowFile.Takes {} "flows/sum.json" := by
    have hparent : FilePath.parent? "flows/sum.json" = some "flows" := by
      decide +kernel
    have hmake : FileTree.makeDirs {} "flows"
        = .ok ⟨Table.empty.insert "flows" .directory⟩ := by
      decide +kernel
    have hwrite :
        FileTree.write ⟨Table.empty.insert "flows" .directory⟩
          "flows/sum.json" "" = .ok ⟨(Table.empty.insert "flows"
            .directory).insert "flows/sum.json" (.file "")⟩ := by
      decide +kernel
    exact WorkflowFile.takes_of_makeDirs hparent (by decide) hmake hwrite
  exact ⟨h, hw, htext, hpath, h.save_load_configure hw htext hpath {}⟩

end NodeFlow.Workbench
