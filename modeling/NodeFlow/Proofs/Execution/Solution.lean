import NodeFlow.Proofs.Execution.Pass
import NodeFlow.Proofs.Workbench.Shared

/-! # The equations of a graph

    Read as equations, the links of a graph say what every node with a record
    holds, given what its inputs hold.  Without cycles there is one solution
    at most (`get?_eq_of_settled`), whatever the order of the links, and one
    pass over all nodes finds it.  So a second pass changes nothing.

    The links have to feed the nodes for that, and the nodes to have as many
    outputs as their records (`Workbench.Fits`).  An import may bring a graph
    in which any one of these does not hold, and then a pass need not solve
    anything (`not_one_pass_solves_any_import`). -/

namespace NodeFlow.Engine

variable {e e' : Engine} {w w' : Workbench} {v : Handle} {x : Record}
  {o o' : Outcome} {s : Surroundings} {respond : Request → Reply}

/-! ## At most one solution -/

/-- Two settled nodes that are linked to the same values are the same. -/
theorem Settled.eq (h : Settled s respond w v o)
    (h' : Settled s respond w' v o') (hreg : w'.registry = w.registry)
    (hlinks : ∀ l, l ∈ w'.graph.links ↔ l ∈ w.graph.links)
    (hsources : ∀ l ∈ w.graph.links, l.target = v →
      w'.graph.nodes.get? l.source = w.graph.nodes.get? l.source) :
    o' = o ∧ (w'.graph.nodes.get? v).map LiveNode.values
      = (w.graph.nodes.get? v).map LiveNode.values := by
  obtain ⟨x, n, inputs, hx, hn, hcarries, ho, hvalues⟩ := h
  obtain ⟨x', n', inputs', hx', hn', hcarries', ho', hvalues'⟩ := h'
  have hrecord : x' = x := by
    rw [hreg, hx] at hx'
    exact (Option.some.inj hx').symm
  have hinputs : inputs' = inputs := by
    refine hcarries'.unique (hcarries.congr hlinks (fun l hl ht => ?_))
    unfold Graph.outputData?
    rw [hsources l hl ht]
  have hout : o' = o := by rw [ho', ho, hrecord, hinputs]
  refine ⟨hout, ?_⟩
  rw [hn, hn', Option.map_some, Option.map_some, hvalues, hvalues', hout,
    hrecord]

theorem eq_of_clearValues {n m : LiveNode} (h : n.clearValues = m.clearValues)
    (hvalues : n.values = m.values) : n = m := by
  cases n
  cases m
  simp only [LiveNode.clearValues, LiveNode.mk.injEq] at h hvalues ⊢
  exact ⟨h.1, h.2.1, h.2.2.1, h.2.2.2.1, h.2.2.2.2.1, hvalues⟩

/-- Two workbenches that differ in values of recorded nodes and in the order
    of their links. -/
structure Alike (w w' : Workbench) : Prop where
  /-- The registry is the same. -/
  registry : w'.registry = w.registry
  /-- The links are the same. -/
  links : ∀ l, l ∈ w'.graph.links ↔ l ∈ w.graph.links
  /-- The nodes are the same but for their values. -/
  nodes : ∀ v, (w'.graph.nodes.get? v).map LiveNode.clearValues
    = (w.graph.nodes.get? v).map LiveNode.clearValues
  /-- Nodes without a record hold the same values. -/
  others : ∀ v, w.registry.recordOf? v = none →
    w'.graph.nodes.get? v = w.graph.nodes.get? v

/-- The same nodes are live. -/
theorem Alike.contains (h : Alike w w') (v : Handle) :
    w'.graph.contains v = w.graph.contains v := by
  unfold Graph.contains Table.contains
  rw [← Option.isSome_map (f := LiveNode.clearValues), h.nodes,
    Option.isSome_map]

theorem Alike.symm (h : Alike w w') : Alike w' w where
  registry := h.registry.symm
  links l := (h.links l).symm
  nodes v := (h.nodes v).symm
  others v hv := (h.others v (h.registry ▸ hv)).symm

theorem Alike.trans {w'' : Workbench} (h : Alike w w') (h' : Alike w' w'') :
    Alike w w'' where
  registry := h'.registry.trans h.registry
  links l := (h'.links l).trans (h.links l)
  nodes v := (h'.nodes v).trans (h.nodes v)
  others v hv := (h'.others v (h.registry ▸ hv)).trans (h.others v hv)

/-- Without cycles all nodes hold the same in two solutions. -/
theorem get?_eq_of_settled (h : w.graph.Grounded)
    (hacyclic : w.graph.Acyclic) (halike : Alike w w')
    (hs : ∀ v x, w.graph.contains v = true →
      w.registry.recordOf? v = some x → ∃ o, Settled s respond w v o)
    (hs' : ∀ v x, w.graph.contains v = true →
      w.registry.recordOf? v = some x → ∃ o, Settled s respond w' v o)
    (v : Handle) :
    w'.graph.nodes.get? v = w.graph.nodes.get? v := by
  have hlive : ∀ v ∈ w.graph.order,
      w'.graph.nodes.get? v = w.graph.nodes.get? v := by
    -- in the order of execution, everything linked into a node comes first
    refine (h.sourced_order hacyclic).induction (fun v hv hsources => ?_)
    have hlive := Graph.mem_order_iff.mp hv
    cases hx : w.registry.recordOf? v with
    | none => exact halike.others v hx
    | some x =>
        obtain ⟨o, ho⟩ := hs v x hlive hx
        obtain ⟨o', ho'⟩ := hs' v x hlive hx
        obtain ⟨-, hvalues⟩ :=
          ho.eq ho' halike.registry halike.links hsources
        obtain ⟨n, hn⟩ := Graph.contains_iff.mp hlive
        have hclear := halike.nodes v
        rw [hn, Option.map_some] at hclear hvalues
        obtain ⟨m, hm, hsame⟩ := Option.map_eq_some_iff.mp hclear
        rw [hm, Option.map_some] at hvalues
        rw [hm, hn, eq_of_clearValues hsame (Option.some.inj hvalues)]
  by_cases hv : w.graph.contains v = true
  · exact hlive v (Graph.mem_order_iff.mpr hv)
  · have hnone : w.graph.nodes.get? v = none :=
      Table.contains_eq_false_iff.mp (Bool.not_eq_true _ ▸ hv)
    have hclear := halike.nodes v
    rw [hnone, Option.map_none, Option.map_eq_none_iff] at hclear
    rw [hnone, hclear]

/-! ## A pass over all nodes -/

/-- The nodes that a pass runs. -/
def recorded (w : Workbench) : List Handle :=
  w.graph.order.filter (fun v => (w.registry.recordOf? v).isSome)

theorem nodup_recorded (w : Workbench) : (recorded w).Nodup :=
  w.graph.nodup_order.filter _

theorem mem_recorded_iff :
    v ∈ recorded w ↔ w.graph.contains v = true
      ∧ (w.registry.recordOf? v).isSome = true := by
  unfold recorded
  rw [List.mem_filter, Graph.mem_order_iff]

/-- A pass over all nodes with records is one over the recorded nodes in
    order. -/
theorem executeAll_passed (h : e.Quiet) (hw : e.bench.Fits)
    (hacyclic : e.bench.graph.Acyclic) (respond : Request → Reply) :
    ∃ outcomes e', executeAll (m := Id) respond e = (outcomes, e')
      ∧ Passed respond e (recorded e.bench) outcomes e' := by
  have hforward := (hw.links.source.sourced_order hacyclic).forward
    e.bench.graph.nodup_order
  exact executeEach_passed h hw hacyclic (fun v hv => mem_recorded_iff.mp hv)
    (nodup_recorded e.bench) (List.Pairwise.filter _ hforward) respond

/-- Where values change only at recorded nodes, workbenches are alike. -/
theorem alike_of_same {w w' : Workbench} (h : w.SameButValues w')
    (hothers : ∀ v, w.registry.recordOf? v = none →
      w'.graph.nodes.get? v = w.graph.nodes.get? v) : Alike w w' where
  registry := h.registry
  links l := by rw [Graph.links_eq_of_blank h.blank]
  nodes v := by
    have hnode := congrArg (fun g => g.nodes.get? v) h.blank
    simpa [Graph.blank] using hnode
  others := hothers

variable {outcomes : List (Handle × Outcome)}

theorem Passed.alike
    (h : Passed respond e (recorded e.bench) outcomes e') :
    Alike e.bench e'.bench := by
  refine alike_of_same h.same (fun v hv => h.others v (fun hmem => ?_))
  have hsome := (mem_recorded_iff.mp hmem).2
  rw [hv] at hsome
  cases hsome

/-- After a pass every recorded node is settled. -/
theorem Passed.exists_settled
    (h : Passed respond e (recorded e.bench) outcomes e')
    (hv : e.bench.graph.contains v = true)
    (hx : e.bench.registry.recordOf? v = some x) :
    ∃ o, (v, o) ∈ outcomes
      ∧ Settled e.surroundings respond e'.bench v o := by
  have hmem : v ∈ outcomes.map Prod.fst := by
    rw [h.nodes, mem_recorded_iff, hx]
    exact ⟨hv, rfl⟩
  obtain ⟨⟨u, o⟩, ho, rfl⟩ := List.mem_map.mp hmem
  exact ⟨o, ho, h.settled u o ho⟩

/-- Passes over workbenches that are alike come to the same. -/
theorem Passed.agree {e₁ e₁' : Engine} {outcomes₁ : List (Handle × Outcome)}
    (hw : e.bench.Fits) (hacyclic : e.bench.graph.Acyclic)
    (hsur : e₁.surroundings = e.surroundings)
    (halike : Alike e.bench e₁.bench)
    (h : Passed respond e (recorded e.bench) outcomes e')
    (h₁ : Passed respond e₁ (recorded e₁.bench) outcomes₁ e₁') :
    e₁'.bench.graph.nodes = e'.bench.graph.nodes
      ∧ ∀ v o o₁, (v, o) ∈ outcomes → (v, o₁) ∈ outcomes₁ → o₁ = o := by
  -- both ends are solutions of the same equations
  have hend : Alike e'.bench e₁'.bench :=
    h.alike.symm.trans (halike.trans h₁.alike)
  have hacyclic' : e'.bench.graph.Acyclic := hacyclic.congr h.alike.links
  have hlive := fun v => Graph.contains_eq_of_blank h.same.blank v
  have hnodes : ∀ v, e₁'.bench.graph.nodes.get? v
      = e'.bench.graph.nodes.get? v := by
    have hs : ∀ v x, e'.bench.graph.contains v = true →
        e'.bench.registry.recordOf? v = some x →
        ∃ o, Settled e.surroundings respond e'.bench v o := by
      intro v x hv hx
      rw [hlive] at hv
      rw [h.same.registry] at hx
      obtain ⟨o, -, ho⟩ := h.exists_settled hv hx
      exact ⟨o, ho⟩
    refine get?_eq_of_settled (h.fits hw).links.source hacyclic' hend hs
      (fun v x hv hx => ?_)
    rw [hlive, ← halike.contains] at hv
    rw [h.same.registry, ← halike.registry] at hx
    obtain ⟨o, -, ho⟩ := h₁.exists_settled hv hx
    exact ⟨o, hsur ▸ ho⟩
  refine ⟨Table.ext_get? hnodes, fun v o o₁ ho ho₁ => ?_⟩
  have hs := h.settled v o ho
  have hs₁ := hsur ▸ h₁.settled v o₁ ho₁
  exact (hs.eq hs₁ hend.registry hend.links (fun l _ _ => hnodes l.source)).1

/-! ## The solution -/

/-- The engine with other links. -/
def relinked (e : Engine) (links : List Link) : Engine :=
  e.withGraph { e.bench.graph with links := links }

/-- One pass over all nodes has solved the equations of the graph. -/
structure Solved (respond : Request → Reply) (e : Engine)
    (outcomes : List (Handle × Outcome)) (e' : Engine) : Prop where
  /-- There is one outcome for each recorded node, in the order of
      execution. -/
  nodes : outcomes.map Prod.fst
    = e.bench.graph.order.filter
        (fun v => (e.bench.registry.recordOf? v).isSome)
  /-- No node has two outcomes. -/
  once : (outcomes.map Prod.fst).Nodup
  /-- Every live node with a record has one. -/
  all : ∀ v, v ∈ outcomes.map Prod.fst ↔
    e.bench.graph.contains v = true
      ∧ (e.bench.registry.recordOf? v).isSome = true
  /-- No node is passed over. -/
  ran : ∀ v o, (v, o) ∈ outcomes → ∀ reason, o ≠ .skipped reason
  /-- In the end every outcome is that of the code of its node on the values
      that links carry to it then, and its outputs hold what it says. -/
  settled : ∀ v o, (v, o) ∈ outcomes →
    Settled e.surroundings respond e'.bench v o
  /-- Nothing but values has changed. -/
  same : e.bench.SameButValues e'.bench
  /-- Nodes without a record hold what they held. -/
  others : ∀ v, e.bench.registry.recordOf? v = none →
    e'.bench.graph.nodes.get? v = e.bench.graph.nodes.get? v
  /-- The order of the links does not matter. -/
  anyOrder : ∀ links, links.Perm e.bench.graph.links →
    (executeAll (m := Id) respond (e.relinked links)).1.Perm outcomes
      ∧ (executeAll (m := Id) respond
          (e.relinked links)).2.bench.graph.nodes = e'.bench.graph.nodes
  /-- A second pass comes to the same. -/
  again : (executeAll (m := Id) respond e').1 = outcomes
    ∧ (executeAll (m := Id) respond e').2.bench.graph.nodes
      = e'.bench.graph.nodes

/-- A pass solves the equations, whatever is asked for afterwards. -/
theorem solved_executeAll (h : e.Quiet) (hw : e.bench.Fits)
    (hacyclic : e.bench.graph.Acyclic) (respond : Request → Reply) :
    Solved respond e (executeAll (m := Id) respond e).1
      (executeAll (m := Id) respond e).2 := by
  obtain ⟨outcomes, e', hrun, hpass⟩ := executeAll_passed h hw hacyclic respond
  rw [hrun]
  have halike := hpass.alike
  refine
    { nodes := hpass.nodes
      once := hpass.nodes ▸ nodup_recorded e.bench
      all := fun v => by rw [hpass.nodes, mem_recorded_iff]
      ran := fun v o ho => (hpass.settled v o ho).ne_skipped
      settled := hpass.settled
      same := hpass.same
      others := halike.others
      anyOrder := fun links hperm => ?_
      again := ?_ }
  · -- with the links in another order
    have hw₁ : (e.relinked links).bench.Fits :=
      ⟨hw.links.congr rfl (fun _ => hperm.mem_iff) (fun _ => rfl), hw.outputs⟩
    have hsur : (e.relinked links).surroundings = e.surroundings := rfl
    have halike₁ : Alike e.bench (e.relinked links).bench :=
      ⟨rfl, fun _ => hperm.mem_iff, fun _ => rfl, fun _ _ => rfl⟩
    obtain ⟨outcomes₁, e₁, hrun₁, hpass₁⟩ := executeAll_passed
      (e := e.relinked links) ⟨h.calls, h.locks, h.states⟩ hw₁
      (hacyclic.congr halike₁.links) respond
    obtain ⟨hnodes, hsame⟩ := Passed.agree hw hacyclic hsur halike₁ hpass
      hpass₁
    rw [hrun₁]
    refine ⟨perm_of_keys (hpass₁.nodes ▸ nodup_recorded _)
      (hpass.nodes ▸ nodup_recorded _) (fun v => ?_)
      (fun v o₁ o ho₁ ho => hsame v o o₁ ho ho₁), hnodes⟩
    rw [hpass.nodes, hpass₁.nodes, mem_recorded_iff, mem_recorded_iff]
    rfl
  · -- once more
    obtain ⟨outcomes₁, e₁, hrun₁, hpass₁⟩ := executeAll_passed hpass.quiet
      (hpass.fits hw) (hacyclic.congr halike.links) respond
    obtain ⟨hnodes, hsame⟩ := Passed.agree hw hacyclic hpass.surroundings
      halike hpass hpass₁
    rw [hrun₁]
    refine ⟨eq_of_keys ?_ (fun v o₁ o ho₁ ho => hsame v o o₁ ho ho₁), hnodes⟩
    rw [hpass.nodes, hpass₁.nodes]
    unfold recorded
    rw [Graph.order_eq_of_blank hpass.same.blank, hpass.same.registry]

/-- A pass can run where graph and records agree. -/
theorem fits_of_agreeing (h : w.Agreeing) : w.Fits where
  links := Workbench.fed_of_wellFormed h.graph
  outputs v x n hx hn := by
    obtain ⟨m, hm, hshow⟩ := h.shows v x hx
    rw [hn] at hm
    cases hm
    have hlength := congrArg List.length hshow.outputs
    rw [h.graph.values v n hn]
    simpa using hlength

/-- One pass without calls in between solves the equations of a graph whose
    links form no cycle and feed the live nodes, if every live node with a
    record has as many outputs as the record.  The latter two are so however
    the workbench has come about, if graph and records agree after every
    snapshot from elsewhere that is imported. -/
theorem one_pass_solves :
    (∀ w, Workbench.Shared Workbench.Agreeing w → w.Fits)
      ∧ ∀ (e : Engine) (respond : Request → Reply), Run e → e.calls = [] →
        e.bench.Fits → e.bench.graph.Acyclic →
        Solved respond e (executeAll (m := Id) respond e).1
          (executeAll (m := Id) respond e).2 :=
  ⟨fun _ h => fits_of_agreeing h.agreeing,
    fun _ respond hrun hnone hfits hacyclic =>
      solved_executeAll (hrun.sound.quiet hnone) hfits hacyclic respond⟩

/-- A sum that takes the value of another one, and a node without a record. -/
theorem one_pass_solves_two_sums :
    let b₀ : Workbench :=
      ⟨{}, { templates := Table.empty.insert "math/sum" Template.sum }⟩
    let b₁ := ((b₀.addNode "math/sum").2.addNode "math/sum").2
    let b₂ : Workbench :=
      { b₁ with graph := (b₁.graph.addNode "note" "Note" [] []).2 }
    let b₃ : Workbench :=
      { b₂ with graph := Workbench.attempt b₂.graph (b₂.graph.connect 1 0 2 0) }
    let e : Engine := { bench := b₃ }
    let respond : Request → Reply := fun _ => .ok (.single (.bool true))
    e.bench.graph.links = [⟨1, 0, 2, 0⟩] ∧ e.bench.Fits
      ∧ Solved respond e (executeAll (m := Id) respond e).1
          (executeAll (m := Id) respond e).2 := by
  intro b₀ b₁ b₂ b₃ e respond
  have hlinks : e.bench.graph.links = [⟨1, 0, 2, 0⟩] := by decide
  have h₁ : Workbench.Shared Workbench.Agreeing b₁ :=
    (Workbench.Shared.empty _).step (.addNode "math/sum" (by decide))
      |>.step (.addNode "math/sum" (by decide))
  have h₃ : Workbench.Shared Workbench.Agreeing b₃ :=
    (h₁.addNode "note" "Note" [] [] (by decide)).step (.connect 1 0 2 0)
  -- the one link leads from a lesser handle to a greater one
  have hacyclic : e.bench.graph.Acyclic := by
    refine Graph.acyclic_of_ascending id (fun l hl => ?_)
    rw [hlinks] at hl
    rw [List.mem_singleton.mp hl]
    decide
  obtain ⟨hfits, hsolved⟩ := one_pass_solves
  exact ⟨hlinks, hfits b₃ h₃, hsolved e respond
    (.quiet ⟨rfl, rfl, fun _ => rfl⟩) rfl (hfits b₃ h₃) hacyclic⟩

/-! ## What an import can spoil

    A snapshot from elsewhere may hold any graph and any records.  Each of the
    four conditions of `Workbench.Fits` is one that an import can break, and
    one that a pass cannot do without. -/

/-- Whether a pass may be asked for, whatever has been imported: no call has
    not ended, and links form no cycle. -/
structure AtRest (e : Engine) : Prop where
  /-- The workbench is what operations have led to. -/
  bench : Workbench.Shared (fun _ => True) e.bench
  /-- The engine has run in any way. -/
  run : Run e
  /-- All calls have ended. -/
  idle : e.calls = []
  /-- Links form no cycle. -/
  acyclic : e.bench.graph.Acyclic

/-- Whether a pass over all nodes solves their equations. -/
def PassSolves (e : Engine) (respond : Request → Reply) : Prop :=
  Solved respond e (executeAll (m := Id) respond e).1
    (executeAll (m := Id) respond e).2

/-- A workflow of live nodes and links in which some nodes have records. -/
def drawn (nodes : List LiveNode) (links : List Link)
    (records : List (Handle × Record)) : Snapshot where
  graph := Graph.toJson
    { lastHandle := 9
      nodes := Table.ofList (nodes.map (fun n => (n.handle, n)))
      links := links }
  nodes := records.map (·.2)
  links := Table.ofList (records.map (fun e => (e.2.id, e.1)))

/-- A live node with inputs and outputs of the names given. -/
def drawnNode (v : Handle) (ins outs : List String) : LiveNode where
  handle := v
  nodeType := "t"
  title := "t"
  inputs := ins.map (fun name => ⟨name, "any", none⟩)
  outputs := outs.map (fun name => ⟨name, "any", none⟩)
  values := outs.map (fun _ => none)

/-- A record of a script with inputs and outputs of the names given. -/
def drawnRecord (id : String) (ins outs : List String) : Record where
  id := id
  nodeType := "t"
  title := "t"
  properties := Table.empty.insert Record.codeTypeKey (.str "javascript")
  inputs := ins.map (fun name => ⟨name, "any", none⟩)
  outputs := outs.map (fun name => ⟨name, "any", none⟩)

/-- A workbench with a value on the first output of a node. -/
def written (w : Workbench) (e : Handle × Json) : Workbench :=
  { w with
    graph :=
      Workbench.attempt w.graph (w.graph.setOutputData e.1 0 (some e.2)) }

/-- An engine whose workflow has been imported, after which values have been
    written to first outputs. -/
def imported (s : Snapshot) (values : List (Handle × Json)) : Engine where
  bench := values.foldl written ((⟨{}, {}⟩ : Workbench).configure s).2

/-- A backend that hands back in a list what reaches the first input. -/
def echo : Request → Reply
  | .script _ inputs =>
      .ok (.single (.arr (inputs.get? (inputKey 0)).toList))
  | _ => .ok .empty

theorem shared_written {imports : Workbench → Prop}
    (h : Workbench.Shared imports w) (values : List (Handle × Json)) :
    Workbench.Shared imports (values.foldl written w) := by
  induction values generalizing w with
  | nil => exact h
  | cons e rest ih => exact ih (h.write e.1 0 (some e.2))

/-- Links that lead upwards by some count of the nodes form no cycle, and
    nothing runs after an import. -/
theorem atRest_imported {s : Snapshot} {values : List (Handle × Json)}
    (count : Handle → Nat)
    (h : ∀ l ∈ (imported s values).bench.graph.links,
      count l.source < count l.target) : AtRest (imported s values) where
  bench := shared_written ((Workbench.Shared.empty _).adopt s trivial) values
  run := .quiet ⟨rfl, rfl, fun _ => rfl⟩
  idle := rfl
  acyclic := Graph.acyclic_of_ascending count h

/-! ### Four imports -/

/-- A node has an output that its record does not know. -/
def stray : Engine :=
  imported (drawn [drawnNode 1 [] ["x"]] [] [(1, drawnRecord "1" [] [])])
    [(1, .bool true)]

/-- A node takes the value of a later one, which waits for a node that is not
    there. -/
def dangling : Engine :=
  imported
    (drawn [drawnNode 2 ["a"] ["x"], drawnNode 3 ["a"] ["x"]]
      [⟨9, 0, 3, 0⟩, ⟨3, 0, 2, 0⟩]
      [(2, drawnRecord "2" ["a"] ["x"]), (3, drawnRecord "3" ["a"] ["x"])])
    []

/-- A link ends at a node without inputs. -/
def undocked : Engine :=
  imported
    (drawn [drawnNode 1 [] ["x"], drawnNode 2 [] ["x"]] [⟨1, 0, 2, 0⟩]
      [(2, drawnRecord "2" [] ["x"])])
    [(1, .bool true)]

/-- Two links end at one input. -/
def contested : Engine :=
  imported
    (drawn [drawnNode 1 [] ["x"], drawnNode 2 [] ["x"],
        drawnNode 3 ["a"] ["x"]]
      [⟨1, 0, 3, 0⟩, ⟨2, 0, 3, 0⟩] [(3, drawnRecord "3" ["a"] ["x"])])
    [(1, .bool true), (2, .bool false)]

/-- An output that no record knows is not written. -/
theorem not_passSolves_stray : ¬ PassSolves stray echo := by
  intro hsolved
  obtain ⟨x, n, inputs, -, hn, -, -, hvalues⟩ :=
    hsolved.settled 1 (.completed []) (by decide +kernel)
  have hheld : ((executeAll (m := Id) echo
      stray).2.bench.graph.nodes.get? 1).map LiveNode.values
        = some [some (.bool true)] := by decide +kernel
  rw [hn, Option.map_some, hvalues] at hheld
  cases hheld

/-- The node that comes first takes the value of the other one only in the
    next pass. -/
theorem not_passSolves_dangling : ¬ PassSolves dangling echo := by
  intro hsolved
  exact absurd hsolved.again.1 (by decide +kernel)

/-- What a link brings to no input is not taken. -/
theorem not_passSolves_undocked : ¬ PassSolves undocked echo := by
  intro hsolved
  obtain ⟨x, n, inputs, hx, -, hcarries, ho, -⟩ :=
    hsolved.settled 2 (.completed [some (.arr [])]) (by decide +kernel)
  have hvalue : inputs.get? (inputKey 0) = some (.bool true) :=
    (hcarries _ _).mpr ⟨⟨1, 0, 2, 0⟩, by decide +kernel, rfl, rfl,
      by decide +kernel⟩
  have hrecord : (executeAll (m := Id) echo
      undocked).2.bench.registry.recordOf? 2
        = some (drawnRecord "2" [] ["x"]) := by decide +kernel
  cases hx.symm.trans hrecord
  -- the code would hand back what the link brings
  have hasks : evaluate undocked.surroundings echo (drawnRecord "2" [] ["x"])
      inputs = .completed [some (.arr (inputs.get? (inputKey 0)).toList)] :=
    rfl
  rw [hasks, hvalue] at ho
  cases ho

/-- Of two links the one that comes first counts. -/
theorem not_passSolves_contested : ¬ PassSolves contested echo := by
  intro hsolved
  have hperm := (hsolved.anyOrder contested.bench.graph.links.reverse
    (List.reverse_perm _)).1
  exact absurd hperm (by decide +kernel)

/-- A pass does not solve the equations after any import: not if a node may
    have outputs that its record does not know, nor if links may come from
    nodes that are not there, end at no input, or end at one input together,
    even if all else is as it should be. -/
theorem not_one_pass_solves_any_import :
    (¬ ∀ (e : Engine) (respond : Request → Reply), AtRest e →
        e.bench.Fed → PassSolves e respond)
      ∧ (¬ ∀ (e : Engine) (respond : Request → Reply), AtRest e →
        e.bench.Docked → e.bench.Unshared → e.bench.Matched →
        PassSolves e respond)
      ∧ (¬ ∀ (e : Engine) (respond : Request → Reply), AtRest e →
        e.bench.graph.Grounded → e.bench.Unshared → e.bench.Matched →
        PassSolves e respond)
      ∧ ¬ ∀ (e : Engine) (respond : Request → Reply), AtRest e →
        e.bench.graph.Grounded → e.bench.Docked → e.bench.Matched →
        PassSolves e respond := by
  refine ⟨fun hall => ?_, fun hall => ?_, fun hall => ?_, fun hall => ?_⟩
  · exact not_passSolves_stray (hall stray echo
      (atRest_imported id (by decide +kernel))
      ⟨by decide +kernel, by decide +kernel, by decide +kernel⟩)
  · -- both links lead downwards
    exact not_passSolves_dangling (hall dangling echo
      (atRest_imported (fun v => 9 - v) (by decide +kernel))
      (by decide +kernel) (by decide +kernel) (by decide +kernel))
  · exact not_passSolves_undocked (hall undocked echo
      (atRest_imported id (by decide +kernel))
      (by decide +kernel) (by decide +kernel) (by decide +kernel))
  · exact not_passSolves_contested (hall contested echo
      (atRest_imported id (by decide +kernel))
      (by decide +kernel) (by decide +kernel) (by decide +kernel))

end NodeFlow.Engine
