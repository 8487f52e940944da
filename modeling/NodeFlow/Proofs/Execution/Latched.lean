import NodeFlow.Proofs.Execution.Independent
import NodeFlow.Proofs.Execution.Overlap
import NodeFlow.Proofs.Workbench.Outputs

/-! # What outputs hold once a call has ended

    Between the request of a call and the reply its node may be given other
    ports, be removed and made anew, or come back from an import, while the
    call still writes as many outputs as its record had.  That is enough to
    clear them: the node has as many outputs, or it holds nothing
    (`Fit.spans`).  Where the node is left in place a call that completes
    fills its outputs, and a call that is skipped changes nothing
    (`latches`). -/

namespace NodeFlow

namespace Graph

/-- Whether outputs up to a number are all that hold anything. -/
def Spans (g : Graph) (v : Handle) (count : Nat) : Prop :=
  g.Cleared v ∨ ∀ n, g.nodes.get? v = some n → n.values.length = count

/-- Whether the outputs of a live node hold values, one each, and the node is
    marked. -/
structure Latched (g : Graph) (v : Handle) (values : List (Option Json)) :
    Prop where
  /-- There is one for every output. -/
  outputs : ∃ ports, g.outputs? v = some ports ∧ values.length = ports.length
  /-- Every output holds its own. -/
  holds : ∀ i, g.outputData? v i = values[i]?.join
  /-- The node is to be drawn. -/
  marked : g.dirty.contains v = true

variable {g g' : Graph} {v : Handle} {n : LiveNode} {count : Nat}

/-- Whether a number spans the outputs of a node depends on that node only. -/
theorem Spans.congr (h : g.Spans v count)
    (hnode : g'.nodes.get? v = g.nodes.get? v) : g'.Spans v count := by
  unfold Spans Cleared at h ⊢
  rwa [hnode]

/-- A number that spans the outputs of a node still does if they keep what
    they hold or are cleared. -/
theorem Spans.held? (h : g.Spans v count)
    (hheld : g'.held? v = g.held? v ∨ g'.Cleared v) : g'.Spans v count := by
  rcases hheld with hheld | hclear
  · rcases h with hclear | hlength
    · refine Or.inl (fun m hm => ?_)
      obtain ⟨n, hn, hvalues⟩ := exists_of_held?_eq hheld hm
      exact hvalues ▸ hclear n hn
    · refine Or.inr (fun m hm => ?_)
      obtain ⟨n, hn, hvalues⟩ := exists_of_held?_eq hheld hm
      exact hvalues ▸ hlength n hn
  · exact Or.inl hclear

/-- Values and marks have no say in which outputs a node has. -/
theorem outputs?_eq_of_blank (h : g'.blank = g.blank) (v : Handle) :
    g'.outputs? v = g.outputs? v := by
  have hblank (k : Graph) :
      k.outputs? v = (k.blank.nodes.get? v).map LiveNode.outputs := by
    unfold outputs? blank
    rw [Table.get?_mapValues, Option.map_map]
    rfl
  rw [hblank, hblank, h]

end Graph

namespace Engine

variable {e e' e₀ e₁ : Engine} {c d : Call} {m : Move} {p : Progress}
  {u v : Handle} {x : Record} {id : CallId} {w b : Workbench} {t : Turn}
  {ms ms' : List Move} {log : List Turn} {made : List (CallId × Handle)}
  {R : Workbench → Workbench → Prop}

/-! ## Writing -/

/-- After an overwrite outputs hold what they held before or what was
    written. -/
theorem mem_overwrite {values rest : List (Option Json)} {i : Nat}
    {value : Option Json} (h : value ∈ overwrite values i rest) :
    value ∈ values ∨ value ∈ rest := by
  induction rest generalizing values i with
  | nil => exact Or.inl h
  | cons first rest ih =>
      rcases ih h with h | h
      · rcases List.mem_or_eq_of_mem_set h with h | rfl
        · exact Or.inl h
        · exact Or.inr (List.mem_cons_self ..)
      · exact Or.inr (List.mem_cons_of_mem _ h)

/-- A node that has as many outputs as are written holds what is written. -/
theorem get?_latch {n : LiveNode} {o : Outcome}
    (hn : w.graph.nodes.get? v = some n)
    (hlength : n.values.length = (o.latched x.outputs.length).length) :
    (w.latch v x o).graph.nodes.get? v
      = some { n with values := o.latched x.outputs.length } := by
  show ((writeFrom _ _ _ _).mark v).nodes.get? v = _
  rw [Graph.mark_nodes, get?_writeFrom hn (by rw [hlength, Nat.zero_add])]
  rfl

/-- A failure clears a node if its record has as many outputs as hold
    anything. -/
theorem cleared_latch (h : w.graph.Spans v x.outputs.length)
    (error : String) : (w.latch v x (.failed error)).graph.Cleared v := by
  intro m hm value hvalue
  cases hn : w.graph.nodes.get? v with
  | none =>
      rw [latch_node, hn] at hm
      cases hm
  | some n =>
      rcases h with hclear | hlength
      · -- what holds nothing does not hold more when it is cleared
        rw [latch_node, hn] at hm
        cases hm
        rcases mem_overwrite hvalue with hold | hnew
        · exact hclear n hn value hold
        · exact List.eq_of_mem_replicate hnew
      · rw [get?_latch hn (by
          rw [hlength n hn]
          exact List.length_replicate.symm)] at hm
        cases hm
        exact List.eq_of_mem_replicate hvalue

/-- What completes stays on the outputs of its node if it has as many of
    them. -/
theorem latched_latch (hg : w.graph.WellFormed) {ports : List Port}
    (hports : w.graph.outputs? v = some ports)
    {outputs : List (Option Json)} (hlength : outputs.length = ports.length) :
    (w.latch v x (.completed outputs)).graph.Latched v outputs := by
  obtain ⟨n, hn, rfl⟩ := Option.map_eq_some_iff.mp hports
  have hnode : (w.latch v x (.completed outputs)).graph.nodes.get? v
      = some { n with values := outputs } :=
    get?_latch hn ((hg.values v n hn).trans hlength.symm)
  constructor
  · exact ⟨n.outputs, by rw [Graph.outputs?, hnode]; rfl, hlength⟩
  · intro i
    unfold Graph.outputData?
    rw [hnode]
    show outputs[i]? >>= id = _
    cases outputs[i]? <;> rfl
  · rw [Table.contains, latch_mark,
      if_pos (Graph.contains_iff.mpr ⟨n, hn⟩)]
    rfl

/-! ## Runs in which the workbench changes in some ways only -/

/-- Whether every change of the workbench in a run is of one kind. -/
def Changes (R : Workbench → Workbench → Prop) : Engine → List Move → Prop
  | _, [] => True
  | e, .act a :: ms => Changes R (e.move (.act a)) ms
  | e, .change b :: ms => R e.bench b ∧ Changes R (e.move (.change b)) ms

/-- All changes of two runs are of one kind exactly if those of the first and
    those of the second are. -/
theorem changes_append :
    e.Changes R (ms ++ ms') ↔ e.Changes R ms ∧ (e.moves ms).Changes R ms' := by
  induction ms generalizing e with
  | nil => exact (and_iff_right trivial).symm
  | cons m ms ih =>
      cases m with
      | act a => exact ih
      | change b =>
          rw [List.cons_append, Changes, Changes, ih, and_assoc]
          rfl

/-- What actions keep and changes of one kind, a run keeps. -/
theorem Changes.keeps {P : Engine → Prop} (hms : e.Changes R ms) (h : P e)
    (hact : ∀ e a, P e → P (e.move (.act a)))
    (hchange : ∀ e b, P e → R e.bench b → P (e.move (.change b))) :
    P (e.moves ms) := by
  induction ms generalizing e with
  | nil => exact h
  | cons m ms ih =>
      cases m with
      | act a => exact ih hms (hact e a h)
      | change b => exact ih hms.2 (hchange e b h hms.1)

/-- Every turn in the log is a move of the run. -/
theorem exists_of_mem_log (ht : t ∈ e.log ms) :
    ∃ before m after, ms = before ++ m :: after
      ∧ (e.moves before).turn? m = some t := by
  induction ms generalizing e with
  | nil => cases ht
  | cons m ms ih =>
      rcases List.mem_append.mp ht with ht | ht
      · exact ⟨[], m, ms, rfl, Option.mem_toList.mp ht⟩
      · obtain ⟨before, k, after, rfl, hturn⟩ := ih ht
        exact ⟨m :: before, k, after, rfl, hturn⟩

/-- The call that a move is a step of. -/
def stepped? (e : Engine) : Move → Option CallId
  | .act (.start _) => some e.nextCall
  | .act (.resume id) => some id
  | .act (.reply id _) => some id
  | .act (.select _) => none
  | .change _ => none

/-! ## While calls run -/

/-- What can be relied on while calls run and operations are carried out. -/
structure Fit (e : Engine) : Prop where
  /-- Calls are in line. -/
  lined : e.Lined
  /-- The workbench can be reached. -/
  reached : Workbench.Reachable (fun _ => True) e.bench
  /-- A call whose cycle runs can clear its node. -/
  spans : ∀ c ∈ e.calls, ∀ x, c.running = some x →
    e.bench.graph.Spans c.node x.outputs.length

/-- Without calls, any workbench that can be reached is fit for a run. -/
theorem Fit.of_quiet (h : e.Quiet)
    (hbench : Workbench.Reachable (fun _ => True) e.bench) : e.Fit where
  lined := .of_quiet h
  reached := hbench
  spans := by simp [h.calls]

/-- While calls run, the graph is well-formed. -/
theorem Fit.graph (h : e.Fit) : e.bench.graph.WellFormed :=
  (h.reached.consistent Workbench.seen_reread).graph

/-- A node has as many outputs as its record. -/
theorem Fit.outputs? (h : e.Fit)
    (hx : e.bench.registry.recordOf? v = some x) :
    ∃ ports, e.bench.graph.outputs? v = some ports
      ∧ ports.length = x.outputs.length := by
  obtain ⟨n, hn, hshow⟩ :=
    (h.reached.consistent Workbench.seen_reread).shows v x hx
  refine ⟨n.outputs, by rw [Graph.outputs?, hn]; rfl, ?_⟩
  simpa using congrArg List.length hshow.outputs

/-- A record has as many outputs as its node, so they span those that hold
    anything. -/
theorem Fit.spans_record (h : e.Fit)
    (hx : e.bench.registry.recordOf? v = some x) :
    e.bench.graph.Spans v x.outputs.length := by
  obtain ⟨ports, hports, hlength⟩ := h.outputs? hx
  refine Or.inr (fun n hn => ?_)
  rw [Graph.outputs?, hn] at hports
  rw [h.graph.values v n hn, ← hlength, ← Option.some.inj hports]

/-- An operation on the workbench leaves every running call able to clear its
    node. -/
theorem Fit.change (h : e.Fit) (hb : e.bench.Operated b) :
    (e.move (.change b)).Fit where
  lined := h.lined.move _
  reached := by
    obtain ⟨o, ho, rfl⟩ := hb
    exact h.reached.perform ho
  spans c hc x hx := (h.spans c hc x hx).held? (hb.held? h.graph c.node)

/-- A call that arrives runs no cycle. -/
theorem Arrived.mem_of_running (ha : Arrived e e₁ c) (hd : d ∈ e₁.calls)
    (hx : d.running = some x) : d ∈ e.calls := by
  rw [ha.calls] at hd
  rcases List.mem_append.mp hd with hd | hd
  · exact hd
  · rw [List.mem_singleton.mp hd, ha.waits] at hx
    cases hx

/-- A new call runs no cycle yet, so there is nothing that it would have to
    clear. -/
theorem Fit.arrived (h : e.Fit) (ha : Arrived e e₁ c)
    (hbench : e₁.bench = e.bench) : e₁.Fit where
  lined := h.lined.arrived ha
  reached := hbench ▸ h.reached
  spans d hd x hx := by
    rw [hbench]
    exact h.spans d (ha.mem_of_running hd hx) x hx

/-- A turn of the first call on a node leaves the nodes of the others
    alone. -/
theorem Fit.went {calls : List Call} (h : e.Fit) (hc : c ∈ e.calls)
    (hfirst : ∀ d ∈ e.calls, d.node = c.node → c.id ≤ d.id)
    (hwent : Went e c m p calls w) (hd : d ∈ calls)
    (hx : d.running = some x) : w.graph.Spans d.node x.outputs.length := by
  obtain ⟨hd, hid⟩ | ⟨y, request, rfl, -, -, hasked⟩ :=
    hwent.mem_calls h.lined.sound.locked.ids hc hd
  · have hspans := h.spans d hd x hx
    -- two calls on one node cannot both be the first
    have hnode : d.node ≠ c.node := fun hnode => by
      have howner := h.lined.sound.locked.owner d hd (by rw [hx]; rfl)
      have hle := (h.lined.owner?_eq_some_iff hd).mp howner c hc hnode.symm
      exact hid (Nat.le_antisymm hle (hfirst d hd hnode))
    cases hwent with
    | missing | asks => exact hspans
    | refused | answers =>
        exact hspans.congr ((latch_sameBut ..).graph.others _ hnode)
  · cases hx
    have hafter : w = e.bench := hasked.after
    rw [hafter]
    exact h.spans_record hasked.record

/-- A move that is no turn of a call leaves the workbench alone, unless it is
    a change. -/
theorem Lined.bench_move (h : e.Lined) (hm : ∀ b, m ≠ .change b)
    (hturn : e.turn? m = none) : (e.move m).bench = e.bench := by
  cases h.moved m with
  | rests _ _ _ _ hbench => exact hbench hm
  | @waits c hstart _ _ hqueue hbehind =>
      have hwaits := start_behind h hbehind
      rw [hqueue] at hwaits
      subst hstart
      show (e.start c.node).2.2.bench = e.bench
      rw [hwaits]
      exact e.arrive_bench c.node
  | drops _ hsome => simp [hturn] at hsome
  | begins _ _ _ _ _ hsome => simp [hturn] at hsome
  | goes _ _ _ hsome => simp [hturn] at hsome

/-- A move that is no turn starts no cycle. -/
theorem Lined.mem_calls_of_rest (h : e.Lined) (hturn : e.turn? m = none)
    (hd : d ∈ (e.move m).calls) (hx : d.running = some x) : d ∈ e.calls := by
  cases h.moved m with
  | rests _ _ hcalls => exact hcalls ▸ hd
  | waits _ _ ha => exact ha.mem_of_running hd hx
  | drops _ hsome => simp [hturn] at hsome
  | begins _ _ _ _ _ hsome => simp [hturn] at hsome
  | goes _ _ _ hsome => simp [hturn] at hsome

/-- All that a turn can be. -/
inductive Turned (e : Engine) (m : Move) (t : Turn) : Prop where
  /-- A call is dropped. -/
  | dropped (hend : t.progress = .ends (.skipped "already running"))
      (hafter : t.after = t.before) (hcalls : (e.move m).calls = e.calls)
  /-- The first call on a node takes a turn; if it has not been there before
      it runs no cycle yet. -/
  | went {e₁ : Engine} {c : Call} (hfit : e₁.Fit)
      (hbench : e₁.bench = t.before) (hc : c ∈ e₁.calls)
      (hold : ∀ d ∈ e₁.calls, ∀ x, d.running = some x → d ∈ e.calls)
      (hcall : t.call = c.id) (hnode : t.node = c.node)
      (hfirst : ∀ d ∈ e₁.calls, d.node = c.node → c.id ≤ d.id)
      (hwent : Went e₁ c m t.progress (e.move m).calls t.after)

/-- A turn is a call that is dropped or one that goes on, and the log says
    what it did to the workbench. -/
theorem Fit.turned (h : e.Fit) (hturn : e.turn? m = some t) :
    t.before = e.bench ∧ t.after = (e.move m).bench ∧ Turned e m t := by
  cases h.lined.moved m with
  | rests _ hnone => simp [hturn] at hnone
  | waits _ hnone => simp [hturn] at hnone
  | drops _ hsome hcalls _ hbench =>
      obtain rfl := Option.some.inj (hturn.symm.trans hsome)
      exact ⟨rfl, hbench.symm, .dropped rfl rfl hcalls⟩
  | @begins e₁ c p _ ha _ hbench hgoes hsome _ hfree =>
      obtain rfl := Option.some.inj (hturn.symm.trans hsome)
      refine ⟨rfl, rfl, .went (h.arrived ha hbench) hbench
        (by simp [ha.calls]) (fun d hd x hx => ha.mem_of_running hd hx)
        rfl rfl (fun d hd hnode => ?_) hgoes⟩
      rw [ha.calls] at hd
      rcases List.mem_append.mp hd with hd | hd
      · exact absurd hnode (hfree d hd)
      · rw [List.mem_singleton.mp hd]
  | @goes c p _ hc hgoes hsome _ hfirst =>
      obtain rfl := Option.some.inj (hturn.symm.trans hsome)
      exact ⟨rfl, rfl,
        .went h rfl hc (fun _ hd _ _ => hd) rfl rfl hfirst hgoes⟩

/-- Whatever a call does, calls stay fit. -/
theorem Fit.act (h : e.Fit) (a : Action) : (e.move (.act a)).Fit where
  lined := h.lined.move _
  reached := h.reached.step (.run rfl a)
  spans d hd x hx := by
    cases hturn : e.turn? (.act a) with
    | none =>
        rw [h.lined.bench_move (by simp) hturn]
        exact h.spans d (h.lined.mem_calls_of_rest hturn hd hx) x hx
    | some t =>
        obtain ⟨hbefore, hafter, hturned⟩ := h.turned hturn
        rw [← hafter]
        cases hturned with
        | dropped _ hsame hcalls =>
            rw [hsame, hbefore]
            exact h.spans d (hcalls ▸ hd) x hx
        | went hfit _ hc _ _ _ hfirst hwent =>
            exact hfit.went hc hfirst hwent hd hx

/-- By induction over the moves: calls stay fit in a run of operations and
    steps of calls. -/
theorem Fit.moves (h : e.Fit) (hms : e.Changes Workbench.Operated ms) :
    (e.moves ms).Fit :=
  hms.keeps h (fun _ a h => h.act a) (fun _ _ h hb => h.change hb)

/-- A cycle that runs has run before, or it runs for the record of its
    node. -/
theorem Fit.running_cases (h : e.Fit) (hd : d ∈ (e.move m).calls)
    (hx : d.running = some x) :
    d ∈ e.calls ∨ e.bench.registry.recordOf? d.node = some x := by
  cases hturn : e.turn? m with
  | none => exact Or.inl (h.lined.mem_calls_of_rest hturn hd hx)
  | some t =>
      obtain ⟨hbefore, -, hturned⟩ := h.turned hturn
      cases hturned with
      | dropped _ _ hcalls => exact Or.inl (hcalls ▸ hd)
      | went hfit hbench hc hold _ _ _ hwent =>
          obtain ⟨hd, -⟩ | ⟨y, request, rfl, -, -, hasked⟩ :=
            hwent.mem_calls hfit.lined.sound.locked.ids hc hd
          · exact Or.inl (hold d hd x hx)
          · cases hx
            rw [← hbefore, ← hbench]
            exact Or.inr hasked.record

/-! ## While a node is left in place -/

/-- Whether a node has the outputs of the record that a call on it runs
    for. -/
def Matches (e : Engine) (id : CallId) (v : Handle) : Prop :=
  ∀ c ∈ e.calls, c.id = id → c.node = v → ∀ x, c.running = some x →
    ∃ ports, e.bench.graph.outputs? v = some ports
      ∧ ports.length = x.outputs.length

/-- No step of a call takes outputs from a node. -/
theorem Matches.act (h : e.Matches id v) (hfit : e.Fit) (a : Action) :
    (e.move (.act a)).Matches id v := by
  intro c hc hid hnode x hx
  have hsame : (e.perform a).bench.graph.outputs? v
      = e.bench.graph.outputs? v :=
    Graph.outputs?_eq_of_blank (e.perform_same a).blank v
  show ∃ ports, (e.perform a).bench.graph.outputs? v = some ports ∧ _
  rw [hsame]
  obtain hold | hrecord := hfit.running_cases hc hx
  · exact h c hold hid hnode x hx
  · exact hfit.outputs? (hnode ▸ hrecord)

/-- An operation that leaves the node in place takes no outputs from it. -/
theorem Matches.change (h : e.Matches id v) (hfit : e.Fit)
    (hb : Workbench.OperatedAside v e.bench b) :
    (e.move (.change b)).Matches id v := by
  intro c hc hid hnode x hx
  obtain ⟨ports, hports, hlength⟩ := h c hc hid hnode x hx
  obtain ⟨n, hn, -⟩ := Option.map_eq_some_iff.mp hports
  exact ⟨ports, (hb.outputs? hfit.graph
    (Graph.contains_iff.mpr ⟨n, hn⟩)).trans hports, hlength⟩

/-- By induction over the moves: a node that is left in place keeps matching
    its call. -/
theorem Matches.moves (h : e.Matches id v) (hfit : e.Fit)
    (hms : e.Changes (Workbench.OperatedAside v) ms) :
    (e.moves ms).Matches id v := by
  -- what leaves a node in place is an operation in the first place
  have hboth := hms.keeps (P := fun e => e.Fit ∧ e.Matches id v) ⟨hfit, h⟩
    (fun _ a h => ⟨h.1.act a, h.2.act h.1 a⟩)
    (fun _ _ h hb => ⟨h.1.change hb.operated, h.2.change h.1 hb⟩)
  exact hboth.2

/-- A call that has taken no turn runs no cycle. -/
theorem Logged.matches_of_untold (h : Logged e₀ ms made log e)
    (hnone : ∀ t ∈ log, t.call ≠ id) : e.Matches id v := by
  intro c hc hid _ x hx
  obtain ⟨t, ht, hcall, -⟩ := h.exists_asked hc hx
  exact absurd (hcall.trans hid) (hnone t ht)

/-! ## The end of a call -/

/-- What a turn does to the workbench. -/
inductive Wrote (e : Engine) (t : Turn) : Prop where
  /-- Nothing, and if the call has ended it is skipped. -/
  | nothing (hafter : t.after = t.before)
      (hend : ∀ o, t.progress = .ends o → ∃ reason, o = .skipped reason)
  /-- The call fails, and the outputs of its record are cleared. -/
  | failure {x : Record} {error : String}
      (hend : t.progress = .ends (.failed error))
      (hafter : t.after = t.before.latch t.node x (.failed error))
      (hspans : t.before.graph.Spans t.node x.outputs.length)
  /-- The call completes, and they are written. -/
  | outputs {c : Call} {x : Record} {outputs : List (Option Json)}
      (hc : c ∈ e.calls) (hid : c.id = t.call) (hnode : c.node = t.node)
      (hx : c.running = some x) (hend : t.progress = .ends (.completed outputs))
      (hafter : t.after = t.before.latch t.node x (.completed outputs))
      (hlength : outputs.length = x.outputs.length)

/-- A turn writes nothing, clears its node or latches what it completes
    with. -/
theorem Fit.wrote (h : e.Fit) (hturn : e.turn? m = some t) : Wrote e t := by
  obtain ⟨-, -, hturned⟩ := h.turned hturn
  cases hturned with
  -- a call that is dropped writes nothing
  | dropped hend hafter =>
      exact .nothing hafter (fun o ho =>
        ⟨_, Progress.ends.inj (ho.symm.trans hend)⟩)
  | @went e₁ c hfit hbench hc hold hcall hnode _ hwent =>
      -- the first turn of a call fails or asks; only a reply can complete it
      obtain ⟨call, node, before, progress, after⟩ := t
      subst hnode hcall hbench
      generalize (e.move m).calls = calls at hwent
      cases hwent with
      | missing =>
          exact .nothing rfl (fun o ho => ⟨_, (Progress.ends.inj ho).symm⟩)
      | asks => exact .nothing rfl nofun
      | refused _ hx => exact .failure rfl rfl (hfit.spans_record hx)
      | @answers x reply hx =>
          obtain ⟨error, heq⟩ | ⟨outputs, heq, hlength⟩ := settle_cases x reply
          · rw [heq]
            exact .failure rfl rfl (hfit.spans c hc x hx)
          · rw [heq]
            exact .outputs (hold c hc x hx) rfl rfl hx rfl rfl hlength

/-- When a call fails its node is cleared. -/
theorem Fit.cleared (h : e.Fit) (hturn : e.turn? m = some t)
    {error : String} (hend : t.progress = .ends (.failed error)) :
    t.after.graph.Cleared t.node := by
  cases h.wrote hturn with
  | nothing _ hskip =>
      obtain ⟨reason, hreason⟩ := hskip _ hend
      cases hreason
  | failure _ hafter hspans =>
      rw [hafter]
      exact cleared_latch hspans _
  | outputs _ _ _ _ hend' =>
      rw [hend] at hend'
      cases hend'

/-- When a call completes its node holds the outputs if it has those of the
    record. -/
theorem Fit.latched (h : e.Fit) (hturn : e.turn? m = some t)
    (hmatches : e.Matches t.call t.node) {outputs : List (Option Json)}
    (hend : t.progress = .ends (.completed outputs)) :
    t.after.graph.Latched t.node outputs := by
  cases h.wrote hturn with
  | nothing _ hskip =>
      obtain ⟨reason, hreason⟩ := hskip _ hend
      cases hreason
  | failure hend' =>
      rw [hend] at hend'
      cases hend'
  | outputs hc hid hnode hx hend' hafter hlength =>
      rw [hend] at hend'
      cases hend'
      obtain ⟨ports, hports, hcount⟩ := hmatches _ hc hid hnode _ hx
      rw [hafter, (h.turned hturn).1]
      exact latched_latch h.graph hports (hlength.trans hcount.symm)

/-- A turn is a step of the call that it names. -/
theorem call_of_turn? (hturn : e.turn? m = some t) :
    e.stepped? m = some t.call := by
  have hnote {id : CallId} {v : Handle} {r : Progress × Engine}
      (h : e.note id v r = some t) : t.call = id := by
    unfold note at h
    split at h
    · cases h
    · cases h
      rfl
  match m with
  | .act (.start v) => exact congrArg some (hnote hturn).symm
  | .act (.resume id) =>
      obtain ⟨c, -, h⟩ := Option.bind_eq_some_iff.mp hturn
      exact congrArg some (hnote h).symm
  | .act (.reply id answer) =>
      obtain ⟨c, -, h⟩ := Option.bind_eq_some_iff.mp hturn
      exact congrArg some (hnote h).symm
  | .act (.select v) => cases hturn
  | .change b => cases hturn

/-- A step of a call leaves the workbench alone, unless the call fails or
    completes. -/
theorem Fit.bench_step (h : e.Fit) (hstep : e.stepped? m = some id)
    (hend : ∀ t, e.turn? m = some t → ∀ o, t.progress = .ends o →
      ∃ reason, o = .skipped reason) :
    (e.move m).bench = e.bench := by
  cases hturn : e.turn? m with
  | none =>
      refine h.lined.bench_move (fun b hb => ?_) hturn
      rw [hb] at hstep
      cases hstep
  | some t =>
      obtain ⟨hbefore, hafter, -⟩ := h.turned hturn
      rw [← hafter, ← hbefore]
      cases h.wrote hturn with
      | nothing hsame => exact hsame
      | failure hfails =>
          obtain ⟨reason, hreason⟩ := hend t hturn _ hfails
          cases hreason
      | outputs _ _ _ _ hcompletes =>
          obtain ⟨reason, hreason⟩ := hend t hturn _ hcompletes
          cases hreason

/-- A cycle ends once. -/
theorem Whole.end_unique {s : Surroundings} {ts : List Turn} {t t' : Turn}
    (h : Whole s ms v ts) (ht : t ∈ ts) (ht' : t' ∈ ts) {o o' : Outcome}
    (hend : t.progress = .ends o) (hend' : t'.progress = .ends o') :
    o = o' := by
  have hsame : t = t' := by
    cases h with
    | missing | refused =>
        rw [List.mem_singleton.mp ht, List.mem_singleton.mp ht']
    | answered asked =>
        -- the first of the two turns asks
        simp only [List.mem_cons, List.not_mem_nil, or_false] at ht ht'
        rcases ht with rfl | rfl
        · rw [asked.asks] at hend
          cases hend
        · rcases ht' with rfl | rfl
          · rw [asked.asks] at hend'
            cases hend'
          · rfl
  subst hsame
  exact Progress.ends.inj (hend.symm.trans hend')

/-- So does a call. -/
theorem Logged.end_unique {t t' : Turn} (h : Logged e₀ ms made log e)
    (ht : t ∈ log) (ht' : t' ∈ log) (hcall : t'.call = t.call)
    {o o' : Outcome} (hend : t.progress = .ends o)
    (hend' : t'.progress = .ends o') : o = o' := by
  have hmem : t ∈ turnsOf t.call log := List.mem_filter.mpr ⟨ht, by simp⟩
  have hmem' : t' ∈ turnsOf t.call log :=
    List.mem_filter.mpr ⟨ht', by simpa using hcall⟩
  obtain hwhole | ⟨-, s, hs, -⟩ := h.ended t.call t.node (h.turns t ht)
    (h.gone_of_end ht hend)
  · exact hwhole.end_unique hmem hmem' hend hend'
  · rw [hs] at hmem hmem'
    rw [List.mem_singleton.mp hmem] at hend
    rw [List.mem_singleton.mp hmem'] at hend'
    exact Progress.ends.inj (hend.symm.trans hend')

/-! ## Every run -/

/-- What is said of the outputs of nodes in a run. -/
structure Latches (e : Engine) (ms : List Move) : Prop where
  /-- When a call fails, no output of its node holds a value. -/
  failed : ∀ t ∈ e.log ms, ∀ error, t.progress = .ends (.failed error) →
    ∀ i, t.after.graph.outputData? t.node i = none
  /-- When a call completes, its node holds the outputs, if it was left in
      place since a time at which the call had not taken a turn. -/
  completed : ∀ before during m after t outputs,
    ms = before ++ (during ++ m :: after) →
    (e.moves (before ++ during)).turn? m = some t →
    t.progress = .ends (.completed outputs) →
    (∀ u ∈ e.log before, u.call ≠ t.call) →
    (e.moves before).Changes (Workbench.OperatedAside t.node) during →
    t.after.graph.Latched t.node outputs
  /-- No step of a call that is skipped changes the workbench. -/
  skipped : ∀ t ∈ e.log ms, ∀ reason, t.progress = .ends (.skipped reason) →
    ∀ before m after, ms = before ++ m :: after →
      (e.moves before).stepped? m = some t.call →
      (e.moves (before ++ [m])).bench = (e.moves before).bench

/-- Outputs match the outcomes of calls, whatever calls run together and
    whatever operations are carried out in between. -/
theorem latches (hquiet : e.Quiet)
    (hbench : Workbench.Reachable (fun _ => True) e.bench)
    (hms : e.Changes Workbench.Operated ms) : e.Latches ms where
  failed t ht error hend := by
    obtain ⟨before, m, after, rfl, hturn⟩ := exists_of_mem_log ht
    have hfit := (Fit.of_quiet hquiet hbench).moves (changes_append.mp hms).1
    exact (hfit.cleared hturn hend).outputData?
  completed before during m after t outputs hsplit hturn hend hnone hleft := by
    subst hsplit
    have hfit := (Fit.of_quiet hquiet hbench).moves (changes_append.mp hms).1
    have hmatches := (logged hquiet before).matches_of_untold
      (v := t.node) hnone
    rw [moves_append] at hturn
    have hduring := (changes_append.mp (changes_append.mp hms).2).1
    exact (hfit.moves hduring).latched hturn (hmatches.moves hfit hleft) hend
  skipped t ht reason hend before m after hsplit hstep := by
    subst hsplit
    have hfit := (Fit.of_quiet hquiet hbench).moves (changes_append.mp hms).1
    rw [moves_append]
    refine hfit.bench_step hstep (fun u hturn o hend' => ⟨reason, ?_⟩)
    -- a call does not both end in another way and be skipped
    have hcall := (call_of_turn? hturn).symm.trans hstep
    exact ((logged hquiet _).end_unique ht (mem_log_of_turn? hturn after)
      (Option.some.inj hcall) hend hend').symm

/-- A sum completes while a node is added.  Then it is given another output
    and fails, and a call on a node that does not exist is skipped. -/
theorem latches_sum :
    let templates := Table.empty.insert "math/sum" Template.sum
    let w : Workbench := ⟨{}, { templates := templates }⟩
    let e : Engine := { bench := (w.addNode "math/sum").2 }
    let added := ((e.perform (.start 1)).bench.addNode "math/sum").2
    let during : List Move := [.act (.start 1), .change added]
    let answer : Move := .act (.reply 0 (.ok (.single (.bool true))))
    let e' := (e.moves during).move answer
    let edited := ((e'.perform (.start 1)).bench.applyStructure "1" "Sum" []
      [⟨"a", "number", none⟩, ⟨"b", "number", none⟩]).2
    let after : List Move :=
      [.act (.start 1), .change edited,
        .act (.reply 1 (.error (.timeout 0))), .act (.start 7)]
    let ms := [] ++ (during ++ answer :: after)
    e.Latches ms ∧ e'.bench.graph.Latched 1 [some (.bool true)]
      ∧ (e.log ms).filterMap (fun t =>
          match t.progress with
          | .ends o => some o.status
          | _ => none) = ["completed", "failed", "skipped"] := by
  -- the node is left in place during the first call, and edited during the
  -- second one
  intro templates w e added during answer e' edited after ms
  have hempty : Workbench.Reachable (fun _ => True) w :=
    .empty (fun _ _ _ => ⟨fun _ _ => trivial, fun _ _ => trivial⟩)
  have hreached : Workbench.Reachable (fun _ => True) e.bench :=
    hempty.step (.addNode "math/sum" (by decide))
  have hroom : (e.perform (.start 1)).bench.graph.lastHandle + 1
      < Graph.handleLimit := by decide +kernel
  have hadded : (e.perform (.start 1)).bench.Operated added :=
    ⟨.addNode "math/sum", hroom, rfl⟩
  have hedited : (e'.perform (.start 1)).bench.Operated edited :=
    ⟨.applyStructure "1" "Sum" [] _, trivial, rfl⟩
  have hlatches : e.Latches ms :=
    latches ⟨rfl, rfl, fun _ => rfl⟩ hreached ⟨hadded, hedited, trivial⟩
  refine ⟨hlatches, ?_, by decide +kernel⟩
  obtain ⟨t, hturn⟩ := Option.isSome_iff_exists.mp
    (show ((e.moves during).turn? answer).isSome = true by decide +kernel)
  have hnode : ((e.moves during).turn? answer).map Turn.node = some 1 := by
    decide +kernel
  have hend : ((e.moves during).turn? answer).map Turn.progress
      = some (.ends (.completed [some (.bool true)])) := by decide +kernel
  rw [hturn, Option.map_some, Option.some.injEq] at hnode hend
  have hfit : (e.moves during).Fit :=
    (Fit.of_quiet ⟨rfl, rfl, fun _ => rfl⟩ hreached).moves ⟨hadded, trivial⟩
  obtain ⟨-, hafter, -⟩ := hfit.turned hturn
  have hlatched := hlatches.completed [] during answer after t _ rfl hturn hend
    nofun ⟨⟨.addNode "math/sum", hroom, trivial, rfl⟩, trivial⟩
  rwa [hnode, hafter] at hlatched

end Engine
end NodeFlow
