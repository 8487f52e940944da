import NodeFlow.Proofs.Execution.Inputs
import NodeFlow.Proofs.Execution.Locks
import NodeFlow.Proofs.Graph.Order

/-! # One pass over all nodes

    On a quiet engine a call runs to its end at once: `execute_quiet` says
    that it comes to `evaluate` of its inputs, that its outputs then hold what
    the outcome says, and that nothing else changes.  A pass runs one call
    after the other.  Where no link leads back in the list of nodes, no call
    changes what an earlier one took or wrote, so in the end all of them are
    `Settled`. -/

namespace NodeFlow.Engine

variable {e e' : Engine} {v u : Handle} {x : Record}
  {respond : Request → Reply}

/-! ## One call -/

theorem writeOutputs_bench (e : Engine) (v : Handle)
    (outputs : List (Option Json)) :
    (e.writeOutputs v outputs).bench
      = ⟨(writeFrom e.bench.graph v 0 outputs).mark v, e.bench.registry⟩ :=
  rfl

/-- A new call on a quiet engine is the only one and starts its cycle. -/
theorem start_quiet (h : e.Quiet)
    (hx : e.bench.registry.recordOf? v = some x) :
    ∃ (c : Call) (e₁ : Engine), e.start v = (c.id, e₁.prepare c x)
      ∧ c.node = v ∧ e₁.calls = [c]
      ∧ e₁.surroundings = e.surroundings ∧ e₁.bench = e.bench := by
  have ha := arrived_arrive h.sound.locked v
  -- the only call owns its lock
  have hcalls : (e.arrive v).2.calls = [(e.arrive v).1] := by
    rw [ha.calls, h.calls, List.nil_append]
  have howns : (e.arrive v).2.ownsLock (e.arrive v).1 = true := by
    simp [ownsLock, owner?, hcalls]
  refine ⟨(e.arrive v).1, (e.arrive v).2, ?_, rfl, hcalls, ?_,
    e.arrive_bench v⟩
  · unfold Engine.start
    simp only
    rw [if_neg (fun hskip => hskip.2 howns), Engine.enter, if_pos howns,
      show (e.arrive v).1.node = v from rfl, e.arrive_bench v, hx]
  · show (e.lockFor v).2.surroundings = e.surroundings
    unfold lockFor
    split <;> rfl

/-- The reply to the only call ends it. -/
theorem reply_only {c : Call} (hcalls : e.calls = [c]) (x : Record)
    (reply : Reply) :
    ∃ e', (e.begun c x).reply c.id reply = (.ends (settle x reply), e')
      ∧ e'.calls = []
      ∧ e'.surroundings = e.surroundings
      ∧ e'.bench = (e.writeOutputs c.node
          ((settle x reply).latched x.outputs.length)).bench := by
  obtain ⟨hresolve, hsame, -, hwrote⟩ :=
    (e.begun c x).resolve_settle c.node x reply
  have hbegun : (e.begun c x).calls = [{ c with running := some x }] := by
    show e.calls.map (started c x) = _
    simp [hcalls, started]
  have hcall : (e.begun c x).call? c.id
      = some { c with running := some x } := by
    simp [call?, hbegun]
  refine ⟨(((e.begun c x).resolve c.node x reply).2.setState c.node
    .idle).release { c with running := some x }, ?_, ?_,
    hsame.surroundings, hwrote⟩
  · unfold Engine.reply
    rw [hcall]
    simp only [hresolve]
    rfl
  · show ((e.begun c x).resolve c.node x reply).2.calls.filter
      (fun d => d.id != c.id) = []
    simp [hsame.calls, hbegun]

/-- On a quiet engine a call runs to its end. -/
theorem execute_quiet {outcome : Outcome} (h : e.Quiet)
    (hx : e.bench.registry.recordOf? v = some x)
    (houtcome : evaluate e.surroundings respond x
      (collectInputs e.bench.graph v x) = outcome) :
    ∃ e', execute (m := Id) respond e v = (some outcome, e')
      ∧ e'.Quiet
      ∧ e'.surroundings = e.surroundings
      ∧ e'.bench
        = (e.writeOutputs v (outcome.latched x.outputs.length)).bench := by
  have hsound := h.sound.start v
  obtain ⟨c, e₁, hstart, hnode, hcalls, hsur, hbench⟩ := start_quiet h hx
  obtain ⟨e₂, hsame, -, ⟨o, -, hprep, hwrote, heval⟩ |
      ⟨request, -, hprep, hsent, heval⟩⟩ := e₁.prepare_cases c x
  · -- the cycle has failed before the request
    have hout : o = outcome := by
      rw [← heval respond, hsur, hbench, hnode, houtcome]
    rw [hstart, hprep] at hsound
    refine ⟨e₂.release c, ?_, hsound.quiet ?_, ?_, ?_⟩
    · unfold execute
      rw [hstart, hprep, hout]
      rfl
    · show e₂.calls.filter (fun d => d.id != c.id) = []
      simp [hsame.calls, hcalls]
    · exact hsame.surroundings.trans hsur
    · show e₂.bench = _
      rw [hwrote, hout, hnode, writeOutputs_bench, writeOutputs_bench, hbench]
  · -- the reply to the request ends the call
    have hout : settle x (respond request) = outcome := by
      rw [← heval respond, hsur, hbench, hnode, houtcome]
    obtain ⟨e₃, hreply, hnone, hsur', hwrote⟩ :=
      reply_only (hsame.calls.trans hcalls) x (respond request)
    rw [hstart, hprep] at hsound
    have hsound' := hsound.reply c.id (respond request)
    rw [hreply] at hsound'
    refine ⟨e₃, ?_, hsound'.quiet hnone, ?_, ?_⟩
    · unfold execute
      simp only [hstart, hprep, bind, hreply, hout]
      rfl
    · exact hsur'.trans (hsame.surroundings.trans hsur)
    · rw [hwrote, hout, hnode, writeOutputs_bench, writeOutputs_bench, hsent,
        hbench]

/-! ## What a call leaves behind -/

/-- Whether an outcome is that of a node: of its code on what links carry to
    the node, with the values of the outputs as the outcome says. -/
def Settled (s : Surroundings) (respond : Request → Reply) (w : Workbench)
    (v : Handle) (o : Outcome) : Prop :=
  ∃ x n inputs, w.registry.recordOf? v = some x
    ∧ w.graph.nodes.get? v = some n
    ∧ w.graph.Carries v inputs
    ∧ o = evaluate s respond x inputs
    ∧ n.values = o.latched x.outputs.length

theorem Settled.ne_skipped {s : Surroundings} {w : Workbench} {o : Outcome}
    (h : Settled s respond w v o) (reason : String) : o ≠ .skipped reason := by
  obtain ⟨x, n, inputs, -, -, -, rfl, -⟩ := h
  rcases evaluate_cases s respond x inputs with ⟨_, heq⟩ | ⟨_, heq, -⟩ <;>
    simp [heq]

/-- A node stays settled while it and what is linked into it hold their
    values. -/
theorem Settled.frame {s : Surroundings} {w w' : Workbench} {o : Outcome}
    (h : Settled s respond w v o) (hw : w.SameButValues w')
    (hself : w'.graph.nodes.get? v = w.graph.nodes.get? v)
    (hsources : ∀ l ∈ w.graph.links, l.target = v →
      w'.graph.nodes.get? l.source = w.graph.nodes.get? l.source) :
    Settled s respond w' v o := by
  obtain ⟨x, n, inputs, hx, hn, hcarries, ho, hvalues⟩ := h
  refine ⟨x, n, inputs, by rw [hw.registry, hx], by rw [hself, hn], ?_, ho,
    hvalues⟩
  -- the same links carry the same values
  refine hcarries.congr (fun l => ?_) (fun l hl ht => ?_)
  · rw [Graph.links_eq_of_blank hw.blank]
  · unfold Graph.outputData?
    rw [hsources l hl ht]

end NodeFlow.Engine

namespace NodeFlow.Workbench

/-- Whether a live node with a record holds as many values as the record has
    outputs. -/
def Matched (w : Workbench) : Prop :=
  ∀ v x n, w.registry.recordOf? v = some x →
    w.graph.nodes.get? v = some n → n.values.length = x.outputs.length

instance (w : Workbench) : Decidable w.Matched :=
  decidable_of_iff
    (∀ e ∈ w.graph.nodes.entries, ∀ x ∈ w.registry.recordOf? e.1,
      e.2.values.length = x.outputs.length)
    ⟨fun h v x n hx hn => h (v, n) ((Table.mem_entries_iff _ _ _).mpr hn) x hx,
      fun h e he x hx => h e.1 x e.2 hx ((Table.mem_entries_iff _ _ _).mp he)⟩

/-- Whether a pass over all nodes solves their equations, whatever backends
    answer. -/
structure Fits (w : Workbench) : Prop where
  /-- Links feed the live nodes. -/
  links : w.Fed
  /-- Records and their nodes have the same number of outputs. -/
  outputs : w.Matched

end NodeFlow.Workbench

namespace NodeFlow.Engine

variable {e e' : Engine} {v u : Handle} {x : Record} {l : List Handle}
  {respond : Request → Reply}

open Workbench (SameButValues)

/-- What a pass over nodes comes to. -/
structure Passed (respond : Request → Reply) (e : Engine) (l : List Handle)
    (outcomes : List (Handle × Outcome)) (e' : Engine) : Prop where
  /-- There is one outcome after the other. -/
  nodes : outcomes.map Prod.fst = l
  /-- Nothing is left of the calls. -/
  quiet : e'.Quiet
  /-- The surroundings stay. -/
  surroundings : e'.surroundings = e.surroundings
  /-- Only values change. -/
  same : e.bench.SameButValues e'.bench
  /-- Other nodes hold their values. -/
  others : ∀ u, u ∉ l →
    e'.bench.graph.nodes.get? u = e.bench.graph.nodes.get? u
  /-- Every node is settled. -/
  settled : ∀ v o, (v, o) ∈ outcomes →
    Settled e.surroundings respond e'.bench v o

/-- A pass writes as many values to a node as it has outputs, so that another
    pass can run. -/
theorem Passed.fits {outcomes : List (Handle × Outcome)} (hw : e.bench.Fits)
    (h : Passed respond e l outcomes e') : e'.bench.Fits where
  links := by
    refine hw.links.congr h.same.registry
      (fun k => by rw [Graph.links_eq_of_blank h.same.blank]) (fun v => ?_)
    have hnode := congrArg
      (fun g => (g.nodes.get? v).map (fun n => n.inputs.length)) h.same.blank
    simpa [Graph.blank, Function.comp_def, LiveNode.clearValues] using hnode
  outputs v x n hx hn := by
    rw [h.same.registry] at hx
    by_cases hv : v ∈ l
    · -- the node was run, and what it holds is what its outcome says
      rw [← h.nodes] at hv
      obtain ⟨⟨u, o⟩, ho, rfl⟩ := List.mem_map.mp hv
      obtain ⟨y, m, inputs, hy, hm, -, rfl, hvalues⟩ := h.settled u o ho
      rw [h.same.registry, hx] at hy
      rw [hn] at hm
      cases hy
      cases hm
      rw [hvalues, length_latched_evaluate]
    · rw [h.others v hv] at hn
      exact hw.outputs v x n hx hn

/-- A call settles its node. -/
theorem execute_settled (h : e.Quiet) (hw : e.bench.Fits)
    (hacyclic : e.bench.graph.Acyclic)
    (hv : e.bench.graph.contains v = true)
    (hx : e.bench.registry.recordOf? v = some x)
    (respond : Request → Reply) :
    ∃ o e', execute (m := Id) respond e v = (some o, e')
      ∧ Passed respond e [v] [(v, o)] e' := by
  obtain ⟨n, hn⟩ := Graph.contains_iff.mp hv
  have hlength := hw.outputs v x n hx hn
  have hcarries := carries_collectInputs hw.links hn hx
  have hvalues := length_latched_evaluate e.surroundings respond x
    (collectInputs e.bench.graph v x)
  generalize ho : evaluate e.surroundings respond x
    (collectInputs e.bench.graph v x) = o at hvalues
  obtain ⟨e', hrun, hquiet, hsur, hbench⟩ := execute_quiet h hx ho
  have hsame : e.bench.SameButValues e'.bench := by
    rw [hbench]
    exact e.writeOutputs_same v _
  have hothers : ∀ u, u ≠ v →
      e'.bench.graph.nodes.get? u = e.bench.graph.nodes.get? u := by
    intro u hu
    rw [hbench, writeOutputs_bench]
    show (Graph.mark _ v).nodes.get? u = _
    rw [Graph.mark_nodes, get?_writeFrom_of_ne hu]
  -- as many values are written as the node has outputs
  have hself : e'.bench.graph.nodes.get? v
      = some { n with values := o.latched x.outputs.length } := by
    rw [hbench, writeOutputs_bench]
    show (Graph.mark _ v).nodes.get? v = _
    rw [Graph.mark_nodes, get?_writeFrom hn
      (by rw [hvalues, hlength, Nat.zero_add])]
    rfl
  refine ⟨o, e', hrun, rfl, hquiet, hsur, hsame, fun u hu => ?_, ?_⟩
  · exact hothers u (by simpa using hu)
  · intro v' o' hmem
    cases List.mem_singleton.mp hmem
    refine ⟨x, _, _, by rw [hsame.registry, hx], hself, ?_, ho.symm, rfl⟩
    refine hcarries.congr (fun l => ?_) (fun l hl ht => ?_)
    · rw [Graph.links_eq_of_blank hsame.blank]
    · -- a node that is linked to itself would be a cycle
      have hne : l.source ≠ v := fun hs =>
        hacyclic v (.single ⟨l, hl, hs, ht⟩)
      unfold Graph.outputData?
      rw [hothers l.source hne]

/-! ## One call after the other -/

/-- A pass settles the nodes of a list that no link leads back in. -/
theorem executeEach_passed (h : e.Quiet) (hw : e.bench.Fits)
    (hacyclic : e.bench.graph.Acyclic)
    (hrecords : ∀ v ∈ l, e.bench.graph.contains v = true
      ∧ (e.bench.registry.recordOf? v).isSome = true)
    (hnodup : l.Nodup) (hforward : Graph.Forward e.bench.graph.links l)
    (respond : Request → Reply) :
    ∃ outcomes e', executeEach (m := Id) respond e l = (outcomes, e')
      ∧ Passed respond e l outcomes e' := by
  induction l generalizing e with
  | nil =>
      exact ⟨[], e, rfl, rfl, h, rfl, .refl _, fun _ _ => rfl, by simp⟩
  | cons v rest ih =>
      obtain ⟨hlive, hrecord⟩ := hrecords v List.mem_cons_self
      obtain ⟨x, hx⟩ := Option.isSome_iff_exists.mp hrecord
      obtain ⟨o, e₁, hrun, hfirst⟩ :=
        execute_settled h hw hacyclic hlive hx respond
      -- writes leave links and live nodes as they are
      have hlinks := Graph.links_eq_of_blank hfirst.same.blank
      obtain ⟨hv, hnodup⟩ := List.nodup_cons.mp hnodup
      obtain ⟨hback, hforward⟩ := List.pairwise_cons.mp hforward
      obtain ⟨outcomes, e', hruns, hrest⟩ := ih hfirst.quiet
        (hfirst.fits hw)
        (hacyclic.congr (fun k => by rw [hlinks]))
        (fun u hu => by
          rw [hfirst.same.registry,
            Graph.contains_eq_of_blank hfirst.same.blank]
          exact hrecords u (List.mem_cons_of_mem v hu))
        hnodup (by rwa [hlinks])
      refine ⟨(v, o) :: outcomes, e', ?_, ?_, hrest.quiet,
        hrest.surroundings.trans hfirst.surroundings,
        hfirst.same.trans hrest.same, fun u hu => ?_, fun u p hp => ?_⟩
      · show (match execute (m := Id) respond e v with
          | (outcome, e) =>
            match executeEach (m := Id) respond e rest with
            | (others, e) =>
              ((outcome.map (fun o => (v, o))).toList ++ others, e)) = _
        rw [hrun]
        simp only
        rw [hruns]
        rfl
      · rw [List.map_cons, hrest.nodes]
      · rw [hrest.others u (fun hmem => hu (List.mem_cons_of_mem v hmem))]
        exact hfirst.others u (fun hmem => hu (by
          rw [List.mem_singleton.mp hmem]
          exact List.mem_cons_self))
      · rcases List.mem_cons.mp hp with hp | hp
        · -- later calls write neither to the node nor to what feeds it
          cases hp
          refine (hfirst.settled v o (List.mem_singleton_self _)).frame
            hrest.same (hrest.others v hv) (fun k hk ht => ?_)
          refine hrest.others k.source (fun hmem => ?_)
          rw [hlinks] at hk
          exact hback k.source hmem k hk rfl ht
        · rw [← hfirst.surroundings]
          exact hrest.settled u p hp

end NodeFlow.Engine
