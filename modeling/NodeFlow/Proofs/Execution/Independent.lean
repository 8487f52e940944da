import NodeFlow.Proofs.Execution.Confined
import NodeFlow.Proofs.Execution.Logged
import NodeFlow.Proofs.Execution.Pass

/-! # Nodes that do not depend on each other

    Of some nodes none is linked to another one or to itself.  What a node
    comes to then does not depend on which of the others have run
    (`Ran.verdict_eq`), and it writes where the others do not read.  So a
    workbench is determined by the set of nodes that have run
    (`Ran.unique`). -/

namespace NodeFlow.Engine

variable {e e' : Engine} {v u : Handle} {x : Record} {s : Surroundings}
  {respond : Request → Reply} {w w' w₁ w₂ : Workbench}
  {vs l l' : List Handle}

/-! ## What a node writes -/

/-- Values with others in their places from one place on, as far as there are
    places. -/
def overwrite (values : List (Option Json)) (i : Nat) :
    List (Option Json) → List (Option Json)
  | [] => values
  | value :: rest => overwrite (values.set i value) (i + 1) rest

theorem get?_writeFrom_self (g : Graph) (v : Handle) (i : Nat)
    (outputs : List (Option Json)) :
    (writeFrom g v i outputs).nodes.get? v
      = (g.nodes.get? v).map
        (fun n => { n with values := overwrite n.values i outputs }) := by
  induction outputs generalizing g i with
  | nil => simp [writeFrom, overwrite]
  | cons value rest ih =>
      rw [writeFrom, ih]
      cases hset : g.setOutputData v i value with
      | ok g' =>
          obtain ⟨n, hn, -, rfl⟩ := Graph.setOutputData_eq_ok_iff.mp hset
          show ((g.nodes.insert v _).get? v).map _ = _
          rw [Table.get?_insert, if_pos rfl, hn]
          rfl
      | error _ =>
          -- there is no node, or no such place
          cases hn : g.nodes.get? v with
          | none => simp [Workbench.attempt, hn]
          | some n =>
              have hi : n.values.length ≤ i := by
                apply Nat.le_of_not_lt
                intro hlt
                rw [Graph.setOutputData_eq_ok_iff.mpr ⟨n, hn, hlt, rfl⟩]
                  at hset
                cases hset
              simp [Workbench.attempt, hn, overwrite,
                List.set_eq_of_length_le hi]

theorem writeFrom_dirty (g : Graph) (v : Handle) (i : Nat)
    (outputs : List (Option Json)) :
    (writeFrom g v i outputs).dirty = g.dirty := by
  induction outputs generalizing g i with
  | nil => rfl
  | cons value rest ih =>
      rw [writeFrom, ih]
      cases hset : g.setOutputData v i value with
      | ok g' =>
          obtain ⟨n, -, -, rfl⟩ := Graph.setOutputData_eq_ok_iff.mp hset
          rfl
      | error _ => rfl

theorem latch_sameBut (w : Workbench) (v : Handle) (x : Record)
    (o : Outcome) : w.SameBut v (w.latch v x o) where
  registry := rfl
  graph := (Graph.SameBut.writeFrom _ v 0 _).trans (.mark _ v)

theorem latch_node (w : Workbench) (v : Handle) (x : Record) (o : Outcome) :
    (w.latch v x o).graph.nodes.get? v
      = (w.graph.nodes.get? v).map (fun n =>
          { n with
            values :=
              overwrite n.values 0 (o.latched x.outputs.length) }) := by
  show ((writeFrom _ _ _ _).mark v).nodes.get? v = _
  rw [Graph.mark_nodes, get?_writeFrom_self]

theorem latch_mark (w : Workbench) (v : Handle) (x : Record) (o : Outcome) :
    (w.latch v x o).graph.dirty.get? v
      = if w.graph.contains v = true then some ()
        else w.graph.dirty.get? v := by
  have hcontains := Graph.contains_eq_of_blank
    (writeFrom_blank w.graph v 0 (o.latched x.outputs.length)) v
  show ((writeFrom _ _ _ _).mark v).dirty.get? v = _
  unfold Graph.mark
  rw [hcontains]
  split
  · show ((writeFrom _ _ _ _).dirty.insert v ()).get? v = _
    rw [Table.get?_insert, if_pos rfl]
  · rw [writeFrom_dirty]

/-! ## Nodes that have run -/

/-- What a call on a node comes to on a workbench. -/
def verdict (s : Surroundings) (respond : Request → Reply) (w : Workbench)
    (v : Handle) : Outcome :=
  match w.registry.recordOf? v with
  | none => .skipped "no record for node"
  | some x => evaluate s respond x (collectInputs w.graph v x)

/-- The node after a call on it. -/
def ranNode (s : Surroundings) (respond : Request → Reply) (w : Workbench)
    (v : Handle) : Option LiveNode :=
  match w.registry.recordOf? v with
  | none => w.graph.nodes.get? v
  | some x =>
      (w.graph.nodes.get? v).map (fun n =>
        { n with
          values :=
            overwrite n.values 0
              ((verdict s respond w v).latched x.outputs.length) })

/-- The mark of the node after a call on it. -/
def ranMark (w : Workbench) (v : Handle) : Option Unit :=
  if (w.registry.recordOf? v).isSome = true ∧ w.graph.contains v = true then
    some ()
  else w.graph.dirty.get? v

/-- Whether a workbench is another one once some nodes have run. -/
structure Ran (s : Surroundings) (respond : Request → Reply)
    (w w' : Workbench) (l : List Handle) : Prop where
  /-- The registry is the same. -/
  registry : w'.registry = w.registry
  /-- So is the handle given last. -/
  lastHandle : w'.graph.lastHandle = w.graph.lastHandle
  /-- So are the links. -/
  links : w'.graph.links = w.graph.links
  /-- The nodes that have run hold what they came to. -/
  nodes : ∀ v, w'.graph.nodes.get? v
    = if v ∈ l then ranNode s respond w v else w.graph.nodes.get? v
  /-- They are marked. -/
  marks : ∀ v, w'.graph.dirty.get? v
    = if v ∈ l then ranMark w v else w.graph.dirty.get? v

theorem Ran.refl (w : Workbench) : Ran s respond w w [] where
  registry := rfl
  lastHandle := rfl
  links := rfl
  nodes _ := by simp
  marks _ := by simp

/-- In which order nodes have run does not show. -/
theorem Ran.unique (h₁ : Ran s respond w w₁ l) (h₂ : Ran s respond w w₂ l')
    (hsame : ∀ v, v ∈ l ↔ v ∈ l') : w₁ = w₂ := by
  have hnodes : w₁.graph.nodes = w₂.graph.nodes :=
    Table.ext_get? (fun v => by
      rw [h₁.nodes, h₂.nodes]
      simp only [hsame])
  have hmarks : w₁.graph.dirty = w₂.graph.dirty :=
    Table.ext_get? (fun v => by
      rw [h₁.marks, h₂.marks]
      simp only [hsame])
  have hlast := h₁.lastHandle.trans h₂.lastHandle.symm
  have hlinks := h₁.links.trans h₂.links.symm
  have hregistry := h₁.registry.trans h₂.registry.symm
  obtain ⟨⟨last₁, nodes₁, links₁, dirty₁⟩, registry₁⟩ := w₁
  obtain ⟨⟨last₂, nodes₂, links₂, dirty₂⟩, registry₂⟩ := w₂
  simp only at hnodes hmarks hlast hlinks hregistry
  rw [hnodes, hmarks, hlast, hlinks, hregistry]

/-- One more node runs. -/
theorem Ran.latch (h : Ran s respond w w' l) (hv : v ∉ l)
    (hx : w.registry.recordOf? v = some x) :
    Ran s respond w (w'.latch v x (verdict s respond w v)) (l ++ [v]) where
  registry := h.registry
  lastHandle := (latch_sameBut w' v x _).graph.lastHandle.trans h.lastHandle
  links := (latch_sameBut w' v x _).graph.links.trans h.links
  nodes u := by
    -- the node has run now, and all others are as they were
    by_cases hu : u = v
    · subst hu
      rw [latch_node, h.nodes, if_neg hv, if_pos (by simp), ranNode, hx]
    · rw [(latch_sameBut w' v x _).graph.others u hu, h.nodes]
      simp [hu]
  marks u := by
    by_cases hu : u = v
    · subst hu
      have hlive : w'.graph.contains u = w.graph.contains u := by
        unfold Graph.contains Table.contains
        rw [h.nodes, if_neg hv]
      have hmem : u ∈ l ++ [u] := by simp
      rw [latch_mark, hlive, h.marks, if_neg hv, if_pos hmem, ranMark, hx]
      simp only [Option.isSome_some, true_and]
    · rw [(latch_sameBut w' v x _).graph.marks u hu, h.marks]
      simp [hu]

/-- A node without a record runs. -/
theorem Ran.missing (h : Ran s respond w w' l)
    (hnone : w.registry.recordOf? v = none) :
    Ran s respond w w' (l ++ [v]) where
  registry := h.registry
  lastHandle := h.lastHandle
  links := h.links
  nodes u := by
    rw [h.nodes]
    by_cases hu : u = v
    · subst hu
      simp [ranNode, hnone]
    · simp [hu]
  marks u := by
    rw [h.marks]
    by_cases hu : u = v
    · subst hu
      simp [ranMark, hnone]
    · simp [hu]

/-! ## Independent nodes -/

/-- Whether nodes are distinct, and none is linked to another one or to
    itself. -/
structure Independent (w : Workbench) (vs : List Handle) : Prop where
  /-- They are distinct. -/
  distinct : vs.Nodup
  /-- No link joins two of them. -/
  apart : ∀ k ∈ w.graph.links, k.source ∈ vs → k.target ∉ vs

theorem ranNode_inputs (s : Surroundings) (respond : Request → Reply)
    (w : Workbench) (v : Handle) :
    (ranNode s respond w v).map LiveNode.inputs = w.graph.inputs? v := by
  unfold ranNode Graph.inputs?
  split
  · rfl
  · rw [Option.map_map]
    rfl

/-- A node takes what it would have taken had no other one run. -/
theorem Ran.collectInputs_eq (h : Ran s respond w w' l)
    (hind : Independent w vs) (hsub : ∀ u ∈ l, u ∈ vs) (hv : v ∈ vs)
    (x : Record) :
    collectInputs w'.graph v x = collectInputs w.graph v x := by
  have hports : w'.graph.inputs? v = w.graph.inputs? v := by
    unfold Graph.inputs?
    rw [h.nodes]
    split
    · exact ranNode_inputs s respond w v
    · rfl
  have hdata : ∀ i, w'.graph.inputData? v i = w.graph.inputData? v i := by
    intro i
    unfold Graph.inputData?
    rw [h.links]
    cases hfind : w.graph.links.find? (fun k => k.enters v i) with
    | none => rfl
    | some k =>
        -- the link starts at a node that is none of those
        have henters := List.find?_some hfind
        simp only [Link.enters, Bool.and_eq_true, beq_iff_eq] at henters
        have hsource : k.source ∉ vs := fun hsource =>
          hind.apart k (List.mem_of_find?_eq_some hfind) hsource
            (henters.1 ▸ hv)
        show w'.graph.outputData? k.source k.sourceSlot
          = w.graph.outputData? k.source k.sourceSlot
        unfold Graph.outputData?
        rw [h.nodes, if_neg (fun hmem => hsource (hsub _ hmem))]
  unfold collectInputs
  rw [hports]
  simp only [hdata]

/-- A node comes to what it would have come to had no other one run. -/
theorem Ran.verdict_eq (h : Ran s respond w w' l) (hind : Independent w vs)
    (hsub : ∀ u ∈ l, u ∈ vs) (hv : v ∈ vs) :
    verdict s respond w' v = verdict s respond w v := by
  unfold verdict
  rw [h.registry]
  split
  · rfl
  · rw [h.collectInputs_eq hind hsub hv]

theorem verdict_of_record (hx : w.registry.recordOf? v = some x) :
    verdict s respond w v
      = evaluate s respond x (collectInputs w.graph v x) := by
  unfold verdict
  rw [hx]

/-! ## One call after the other -/

/-- On a quiet engine a call on a node without a record is skipped. -/
theorem execute_missing (respond : Request → Reply) (h : e.Quiet)
    (hnone : e.bench.registry.recordOf? v = none) :
    ∃ e', execute (m := Id) respond e v
        = (some (.skipped "no record for node"), e')
      ∧ e'.Quiet ∧ e'.surroundings = e.surroundings
      ∧ e'.bench = e.bench := by
  obtain ⟨hstart, howns⟩ := start_alone (.of_quiet h) (v := v)
    (by simp [h.calls])
  have hskip : (e.arrive v).2.enter (e.arrive v).1
      = close (e.arrive v).1
        ((e.arrive v).2.skip v "no record for node") := by
    unfold enter
    rw [if_pos howns, arrive_node, arrive_bench, hnone]
  have hsound := h.sound.start v
  rw [hstart.trans hskip] at hsound
  refine ⟨_, ?_, hsound.quiet ?_, (e.arrive_settings v).2, e.arrive_bench v⟩
  · unfold execute
    rw [show e.start v = ((e.start v).1, (e.start v).2) from rfl,
      hstart.trans hskip]
    rfl
  · have hcalls := (arrived_arrive h.sound.locked v).calls
    show (e.arrive v).2.calls.filter (fun d => d.id != (e.arrive v).1.id) = []
    simp [hcalls, h.calls]

/-- On a quiet engine a call comes to what its node comes to. -/
theorem execute_ran (h : e.Quiet) (hind : Independent w vs)
    (hran : Ran e.surroundings respond w e.bench l)
    (hsub : ∀ u ∈ l, u ∈ vs) (hv : v ∈ vs) (hnew : v ∉ l) :
    ∃ e', execute (m := Id) respond e v
        = (some (verdict e.surroundings respond w v), e')
      ∧ e'.Quiet ∧ e'.surroundings = e.surroundings
      ∧ Ran e.surroundings respond w e'.bench (l ++ [v]) := by
  have hverdict := hran.verdict_eq hind hsub hv
  cases hx : e.bench.registry.recordOf? v with
  | none =>
      obtain ⟨e', hexec, hquiet, hsur, hbench⟩ :=
        execute_missing respond h hx
      rw [hran.registry] at hx
      refine ⟨e', ?_, hquiet, hsur, hbench ▸ hran.missing hx⟩
      rw [hexec, verdict, hx]
  | some x =>
      obtain ⟨e', hexec, hquiet, hsur, hbench⟩ := execute_quiet h hx
        ((verdict_of_record hx).symm.trans hverdict)
      rw [hran.registry] at hx
      exact ⟨e', hexec, hquiet, hsur, hbench ▸ hran.latch hnew hx⟩

/-- So do calls on one node after the other. -/
theorem executeEach_ran (h : e.Quiet) (hind : Independent w vs)
    (hran : Ran e.surroundings respond w e.bench l)
    (hsub : ∀ u ∈ l ++ l', u ∈ vs) (hnodup : (l ++ l').Nodup) :
    ∃ e', executeEach (m := Id) respond e l'
        = (l'.map (fun v => (v, verdict e.surroundings respond w v)), e')
      ∧ e'.Quiet
      ∧ Ran e.surroundings respond w e'.bench (l ++ l') := by
  induction l' generalizing e l with
  | nil => exact ⟨e, rfl, h, (List.append_nil l).symm ▸ hran⟩
  | cons v rest ih =>
      have hnew : v ∉ l := fun hmem =>
        (List.nodup_append.mp hnodup).2.2 v hmem v List.mem_cons_self rfl
      obtain ⟨e₁, hexec, hquiet, hsur, hran₁⟩ := execute_ran h hind hran
        (fun u hu => hsub u (List.mem_append_left _ hu)) (hsub v (by simp))
        hnew
      rw [List.append_cons] at hsub hnodup
      obtain ⟨e', hrest, hquiet', hran'⟩ :=
        ih hquiet (hsur.symm ▸ hran₁) hsub hnodup
      rw [hsur] at hrest hran'
      refine ⟨e', ?_, hquiet', List.append_cons l v rest ▸ hran'⟩
      unfold executeEach
      simp only [bind, hexec, hrest]
      rfl

end NodeFlow.Engine
