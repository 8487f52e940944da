import NodeFlow.Proofs.Execution.Logged

/-! # Calls that wait, and calls made in turn

    Where calls wait for each other, a run might as well make every call only
    when its turn has come: then no call ever waits, the calls on a node come
    one after the other, and everything else is the same, turn by turn
    (`exists_inTurn`). -/

namespace NodeFlow.Engine

variable {e e' : Engine} {c c' d : Call} {m : Move} {p : Progress}
  {v u : Handle} {x y : Record}

/-! ## What steps do not depend on -/

/-- An engine without its calls, their locks and their numbers. -/
def view (e : Engine) : Engine :=
  { e with
    calls := []
    locks := Table.empty
    nextCall := 0
    nextLock := 0 }

@[simp] theorem view_bench (e : Engine) : e.view.bench = e.bench := rfl

@[simp] theorem view_surroundings (e : Engine) :
    e.view.surroundings = e.surroundings := rfl

/-- Engines that are the same but for their calls have the same workbench. -/
theorem bench_eq_of_view (h : e'.view = e.view) : e'.bench = e.bench := by
  have hbench := congrArg Engine.bench h
  exact hbench

/-- Getting ready depends on nothing but the node of a call, and calls have no
    part in it. -/
theorem view_prepare (e : Engine) (hnode : c'.node = c.node) (x : Record) :
    (e.prepare c x).1 = (e.view.prepare c' x).1
      ∧ (e.prepare c x).2.view = (e.view.prepare c' x).2.view := by
  unfold prepare
  simp only [hnode]
  cases Backend.select (x.codeType?.getD "") with
  | error failure => exact ⟨rfl, rfl⟩
  | ok backend =>
      simp only [emit_surroundings, setState_surroundings, setState_bench,
        view_surroundings, view_bench]
      cases Request.ofCode e.surroundings backend x.code
          (collectInputs e.bench.graph c.node x) with
      | error failure => exact ⟨rfl, rfl⟩
      | ok request => exact ⟨rfl, rfl⟩

/-- Calls on one node that get on do so alike. -/
theorem enter_congr (h : e'.view = e.view) (hnode : c'.node = c.node)
    (howns : e.ownsLock c = true) (howns' : e'.ownsLock c' = true) :
    (e'.enter c').1 = (e.enter c).1
      ∧ (e'.enter c').2.view = (e.enter c).2.view := by
  have hbench := bench_eq_of_view h
  unfold enter
  rw [if_pos howns, if_pos howns', hbench, hnode]
  cases e.bench.registry.recordOf? c.node with
  | none =>
      refine ⟨rfl, ?_⟩
      show (e'.skip c.node "no record for node").2.view
        = (e.skip c.node "no record for node").2.view
      have hskip : ∀ k : Engine, (k.skip c.node "no record for node").2.view
          = (k.view.skip c.node "no record for node").2.view := fun _ => rfl
      rw [hskip e', hskip e, h]
  | some x =>
      obtain ⟨hprogress, hview⟩ := e.view_prepare hnode x
      obtain ⟨hprogress', hview'⟩ := e'.view_prepare (c := c') rfl x
      rw [hprogress, hview, hprogress', hview', h]
      exact ⟨rfl, rfl⟩

/-- Calls have no part in how a cycle ends. -/
theorem view_resolve (e : Engine) (v : Handle) (x : Record) (reply : Reply) :
    (e.resolve v x reply).1 = (e.view.resolve v x reply).1
      ∧ ((e.resolve v x reply).2.setState v .idle).view
        = ((e.view.resolve v x reply).2.setState v .idle).view := by
  unfold resolve
  cases reply with
  | error failure => exact ⟨rfl, rfl⟩
  | ok result =>
      simp only
      cases result.error? with
      | some detail => exact ⟨rfl, rfl⟩
      | none => exact ⟨rfl, rfl⟩

/-- A new call is all that an arrival changes. -/
theorem arrive_view (e : Engine) (v : Handle) :
    (e.arrive v).2.view = e.view := by
  unfold arrive
  rcases e.lockFor_cases v with ⟨l, -, hlock⟩ | ⟨-, hlock⟩ <;>
    (rw [hlock]; rfl)

/-- Calls have no part in a selection. -/
theorem select_view (e : Engine) (node : Option Handle) :
    (e.select node).2.view = (e.view.select node).2.view := by
  unfold select
  rw [view_bench]
  split <;> rfl

/-! ## Cycles that run -/

/-- Whether the cycle of a record runs for a node. -/
def Runs (calls : List Call) (v : Handle) (x : Record) : Prop :=
  ∃ c ∈ calls, c.node = v ∧ c.running = some x

/-- After the first turn of a call its cycle runs if a backend is asked. -/
theorem Went.runs_iff {calls : List Call} {w : Workbench}
    (h : Went e c m p calls w) (hids : (e.calls.map Call.id).Nodup)
    (hc : c ∈ e.calls) (hwait : c.running = none) :
    Runs calls u y ↔ Runs e.calls u y
      ∨ ((∃ request, p = .asks request) ∧ u = c.node
        ∧ e.bench.registry.recordOf? c.node = some y) := by
  constructor
  · rintro ⟨d, hd, rfl, hrun⟩
    obtain ⟨hd, -⟩ | ⟨x, request, rfl, -, hp, hasked⟩ :=
      h.mem_calls hids hc hd
    · exact Or.inl ⟨d, hd, rfl, hrun⟩
    · cases hrun
      exact Or.inr ⟨⟨request, hp⟩, rfl, hasked.record⟩
  · rintro (⟨d, hd, hnode, hrun⟩ | ⟨⟨request, hp⟩, rfl, hy⟩)
    · refine ⟨d, h.mem_of_ne hd (fun hid => ?_), hnode, hrun⟩
      rw [eq_of_key hids hd hc hid, hwait] at hrun
      cases hrun
    · cases h with
      | missing | refused | answers => cases hp
      | asks _ hx =>
          rw [hx] at hy
          cases hy
          exact ⟨_, mem_begun_iff.mpr (Or.inr ⟨c, hc, rfl, rfl⟩), rfl, rfl⟩

/-- No cycle runs for the node of a call that has run one. -/
theorem Locked.runs_release_iff (h : e.Locked) (hc : c ∈ e.calls)
    (hx : c.running = some x) :
    Runs (e.release c).calls u y ↔ Runs e.calls u y ∧ u ≠ c.node := by
  constructor
  · rintro ⟨d, hd, rfl, hrun⟩
    obtain ⟨hd, hid⟩ := mem_others_iff.mp hd
    refine ⟨⟨d, hd, rfl, hrun⟩, fun hnode => hid ?_⟩
    rw [h.eq_of_running hd hc hnode (by rw [hrun]; rfl) (by rw [hx]; rfl)]
  · rintro ⟨⟨d, hd, rfl, hrun⟩, hnode⟩
    refine ⟨d, mem_others_iff.mpr ⟨hd, fun hid => hnode ?_⟩, rfl, hrun⟩
    rw [eq_of_key h.ids hd hc hid]

/-! ## Calls in turn -/

/-- Whether no call on a node is left. -/
def Alone (e : Engine) (v : Handle) : Prop := ∀ c ∈ e.calls, c.node ≠ v

/-- Whether every call is made only when no other call on its node is left. -/
def InTurn (e : Engine) : List Move → Prop
  | [] => True
  | m :: ms =>
      (∀ v, m = .act (.start v) → e.Alone v) ∧ (e.move m).InTurn ms

/-- The workbench that a move puts in place. -/
def Move.change? : Move → Option Workbench
  | .change b => some b
  | _ => none

/-- A turn, whatever the number of its call. -/
def Turn.unnumbered (t : Turn) : Turn := { t with call := 0 }

/-- Calls are made in turn in two runs if they are so in each. -/
theorem inTurn_append {ms ms' : List Move} :
    e.InTurn (ms ++ ms') ↔ e.InTurn ms ∧ (e.moves ms).InTurn ms' := by
  induction ms generalizing e with
  | nil => simp [InTurn, moves]
  | cons m ms ih =>
      rw [List.cons_append, InTurn, InTurn, ih, and_assoc]
      rfl

/-- Whether an engine is like another one but for the calls that wait
    there. -/
structure Serves (e e' : Engine) : Prop where
  /-- Calls are in line. -/
  lined : e.Lined
  /-- They are so in the other engine. -/
  served : e'.Lined
  /-- All but the calls is the same. -/
  view : e'.view = e.view
  /-- The same cycles run. -/
  runs : ∀ v x, Runs e'.calls v x ↔ Runs e.calls v x
  /-- No call waits. -/
  busy : ∀ c ∈ e'.calls, c.running.isSome = true

/-- Moves of the second engine that do what a move of the first one does. -/
structure Follows (e e' : Engine) (m : Move) (ms : List Move) : Prop where
  /-- Calls are made in turn. -/
  inTurn : e'.InTurn ms
  /-- The workbench is changed in the same way. -/
  changes : ms.filterMap Move.change? = [m].filterMap Move.change?
  /-- The turns are the same. -/
  log : (e'.log ms).map Turn.unnumbered
    = (e.turn? m).toList.map Turn.unnumbered
  /-- The engines are alike then. -/
  serves : Serves (e.move m) (e'.moves ms)

/-- A quiet engine serves itself. -/
theorem Serves.of_quiet (h : e.Quiet) : Serves e e where
  lined := .of_quiet h
  served := .of_quiet h
  view := rfl
  runs _ _ := Iff.rfl
  busy := by simp [h.calls]

/-- A node for which no cycle runs has no calls where none waits. -/
theorem Serves.alone (h : Serves e e') (hfree : ∀ x, ¬ Runs e.calls v x) :
    e'.Alone v := by
  intro c hc hnode
  obtain ⟨x, hx⟩ := Option.isSome_iff_exists.mp (h.busy c hc)
  exact hfree x ((h.runs v x).mp ⟨c, hc, hnode, hx⟩)

/-- Nothing is done where a call waits. -/
theorem Serves.idle (h : Serves e e') (hm : ∀ b, m ≠ .change b)
    (hturn : e.turn? m = none) (hview : (e.move m).view = e.view)
    (hruns : ∀ v x, Runs (e.move m).calls v x ↔ Runs e.calls v x) :
    Follows e e' m [] where
  inTurn := trivial
  changes := by
    cases m with
    | act a => rfl
    | change b => exact absurd rfl (hm b)
  log := by rw [hturn]; rfl
  serves :=
    { lined := h.lined.move m
      served := h.served
      view := h.view.trans hview.symm
      runs := fun v x => (h.runs v x).trans (hruns v x).symm
      busy := h.busy }

/-- A first turn is taken by a call that is made just then. -/
theorem Serves.first {e₁ : Engine} {a : Action} (h : Serves e e')
    (hview : e₁.view = e.view)
    (hruns : ∀ v x, Runs e₁.calls v x ↔ Runs e.calls v x)
    (hids : (e₁.calls.map Call.id).Nodup) (hc : c ∈ e₁.calls)
    (hwait : c.running = none) (howns : e₁.ownsLock c = true)
    (hfree : ∀ x, ¬ Runs e.calls c.node x)
    (hmove : e.move (.act a) = (e₁.enter c).2)
    (hturn : e.turn? (.act a)
      = some ⟨c.id, c.node, e.bench, (e₁.enter c).1, (e₁.enter c).2.bench⟩) :
    Follows e e' (.act a) [.act (.start c.node)] := by
  have ha := arrived_arrive h.served.sound.locked c.node
  obtain ⟨hstart, howns'⟩ := start_alone h.served (h.alone hfree)
  -- the call that is made just then does what the one that waited does
  have hview' : (e'.arrive c.node).2.view = e₁.view :=
    (e'.arrive_view c.node).trans (h.view.trans hview.symm)
  obtain ⟨hprogress, hsame⟩ :=
    enter_congr hview' (e'.arrive_node c.node) howns howns'
  have hmove' : e'.move (.act (.start c.node))
      = ((e'.arrive c.node).2.enter (e'.arrive c.node).1).2 :=
    congrArg Prod.snd hstart
  have hwent := went_enter (m := .act a) howns hwait
  have hwent' := went_enter (m := .act (.start c.node)) howns' ha.waits
  have hmem' : (e'.arrive c.node).1 ∈ (e'.arrive c.node).2.calls := by
    simp [ha.calls]
  have hids' := (h.served.arrived ha).sound.locked.ids
  -- a call that has arrived does not run yet
  have harrived : ∀ v x, Runs (e'.arrive c.node).2.calls v x
      ↔ Runs e'.calls v x := fun v x => by
    unfold Runs
    rw [ha.calls]
    simp [ha.waits]
  constructor
  case inTurn =>
    refine ⟨fun v hv => ?_, trivial⟩
    cases hv
    exact h.alone hfree
  case changes => rfl
  case log =>
    have hturn' : e'.turn? (.act (.start c.node))
        = e'.note e'.nextCall c.node (e'.start c.node).2 := rfl
    rw [log_singleton, hturn', hstart, note_of_ne hwent'.ne_waits, hturn,
      hprogress, bench_eq_of_view hsame, bench_eq_of_view h.view]
    rfl
  case serves =>
    show Serves _ (e'.move (.act (.start c.node)))
    refine ⟨h.lined.move _, h.served.move _, ?_, fun v x => ?_, fun d hd => ?_⟩
    · rw [hmove, hmove', hsame]
    · rw [hmove, hmove', hwent.runs_iff hids hc hwait,
        hwent'.runs_iff hids' hmem' ha.waits, harrived, hruns, h.runs,
        hprogress, bench_eq_of_view hview', arrive_node]
    · rw [hmove'] at hd
      obtain ⟨hd, hid⟩ | ⟨x, request, rfl, -⟩ :=
        hwent'.mem_calls hids' hmem' hd
      · rw [ha.calls] at hd
        rcases List.mem_append.mp hd with hd | hd
        · exact h.busy d hd
        · exact absurd (congrArg Call.id (List.mem_singleton.mp hd)) hid
      · rfl

/-! ## Moves -/

/-- A call that runs or ends at once is made there too; one that has to wait
    is not made yet. -/
theorem Serves.start (h : Serves e e') (hqueue : e.overlap = .queue)
    (v : Handle) : ∃ ms, Follows e e' (.act (.start v)) ms := by
  have ha := arrived_arrive h.lined.sound.locked v
  -- the new call runs no cycle yet
  have hruns : ∀ u x, Runs (e.arrive v).2.calls u x ↔ Runs e.calls u x :=
    fun u x => by
      unfold Runs
      rw [ha.calls]
      simp [ha.waits]
  by_cases hfree : ∀ d ∈ e.calls, d.node ≠ v
  · -- it runs at once, and so it is made there too
    obtain ⟨hstart, howns⟩ := start_alone h.lined hfree
    have hwent := went_enter (m := .act (.start v)) howns ha.waits
    refine ⟨_, h.first (a := .start v) (e.arrive_view v) hruns
      (h.lined.arrived ha).sound.locked.ids (by simp [ha.calls]) ha.waits howns
      ?_ (congrArg Prod.snd hstart) ?_⟩
    · rintro x ⟨d, hd, hnode, -⟩
      exact hfree d hd hnode
    · show e.note e.nextCall v (e.start v).2 = _
      rw [hstart, note_of_ne hwent.ne_waits, ha.id]
      rfl
  · -- it has to wait, so nothing is done there
    have hbehind : ∃ d ∈ e.calls, d.node = v := by
      apply Classical.byContradiction
      exact fun hnone => hfree (fun d hd hnode => hnone ⟨d, hd, hnode⟩)
    have hstart := start_behind h.lined hbehind
    rw [hqueue] at hstart
    have hmove : e.move (.act (.start v)) = (e.arrive v).2 :=
      congrArg Prod.snd hstart
    refine ⟨[], h.idle nofun ?_ ?_ ?_⟩
    · show e.note e.nextCall v (e.start v).2 = none
      rw [hstart, note_waits]
    · rw [hmove]
      exact e.arrive_view v
    · rw [hmove]
      exact hruns

/-- Nothing is done where a step leaves an engine as it is. -/
theorem Serves.still (h : Serves e e') {a : Action} {id : CallId}
    {r : Progress × Engine} (hr : r = (.waits, e))
    (hmove : e.move (.act a) = r.2)
    (hturn : e.turn? (.act a)
      = (e.call? id).bind (fun c => e.note id c.node r)) :
    ∃ ms, Follows e e' (.act a) ms := by
  subst hr
  refine ⟨[], h.idle nofun ?_ (by rw [hmove]) (by simp [hmove])⟩
  rw [hturn]
  cases e.call? id <;> rfl

/-- A call that waited here is made there once it goes on. -/
theorem Serves.resume (h : Serves e e') (id : CallId) :
    ∃ ms, Follows e e' (.act (.resume id)) ms := by
  cases hcall : e.call? id with
  | none => exact h.still (by rw [Engine.resume, hcall]) rfl rfl
  | some c =>
      obtain ⟨hc, rfl⟩ := h.lined.sound.locked.call?_eq_some_iff.mp hcall
      by_cases hnext : c.running = none
          ∧ ∀ d ∈ e.calls, d.node = c.node → c.id ≤ d.id
      · obtain ⟨hwait, hfirst⟩ := hnext
        obtain ⟨hresume, howns⟩ := resume_first h.lined hc hwait hfirst
        have howner := (h.lined.owner?_eq_some_iff hc).mpr hfirst
        have hwent := went_enter (m := .act (.resume c.id)) howns hwait
        refine ⟨_, h.first (a := .resume c.id) rfl (fun _ _ => Iff.rfl)
          h.lined.sound.locked.ids hc hwait howns ?_
          (congrArg Prod.snd hresume) ?_⟩
        · -- nothing runs where the first call in line waits
          rintro x ⟨d, hd, hnode, hx⟩
          rw [h.lined.sound.locked.free_of_owner hc hwait howner d hd hnode]
            at hx
          cases hx
        · show (e.call? c.id).bind (fun c => e.note _ c.node _) = _
          rw [hcall, Option.bind_some, hresume, note_of_ne hwent.ne_waits]
      · exact h.still (resume_behind h.lined hc
          (fun hwait hfirst => hnext ⟨hwait, hfirst⟩)) rfl rfl

/-- A reply is given to the call whose cycle runs. -/
theorem Serves.reply_running (h : Serves e e') (hc : c ∈ e.calls)
    (hx : c.running = some x) (answer : Reply) :
    ∃ ms, Follows e e' (.act (.reply c.id answer)) ms := by
  obtain ⟨c', hc', hnode, hx'⟩ := (h.runs c.node x).mpr ⟨c, hc, rfl, hx⟩
  -- the cycle of the same record runs there under another number
  have hreply := Engine.reply_running h.lined hc hx answer
  have hreply' := Engine.reply_running h.served hc' hx' answer
  rw [hnode] at hreply'
  obtain ⟨hprogress, hview⟩ := e.view_resolve c.node x answer
  obtain ⟨hprogress', hview'⟩ := e'.view_resolve c.node x answer
  rw [h.view] at hprogress' hview'
  -- the two cycles end in the same way, as calls have no part in that
  have hends : (e'.reply c'.id answer).1 = (e.reply c.id answer).1 := by
    rw [hreply, hreply']
    show Progress.ends _ = Progress.ends _
    rw [hprogress, hprogress']
  have hsame : (e'.reply c'.id answer).2.view
      = (e.reply c.id answer).2.view := by
    rw [hreply, hreply']
    exact hview'.trans hview.symm
  have hcalls := reply_calls h.lined hc hx answer
  have hcalls' := reply_calls h.served hc' hx' answer
  refine ⟨[.act (.reply c'.id answer)], ⟨nofun, trivial⟩, rfl, ?_,
    h.lined.move _, h.served.move (.act (.reply c'.id answer)), hsame,
    fun u y => ?_, fun d hd => ?_⟩
  · -- the turns are the same but for the number of the call
    have hturn : e.turn? (.act (.reply c.id answer))
        = e.note c.id c.node (e.reply c.id answer) := by
      show (e.call? c.id).bind _ = _
      rw [h.lined.sound.locked.call?_eq_some_iff.mpr ⟨hc, rfl⟩,
        Option.bind_some]
    have hturn' : e'.turn? (.act (.reply c'.id answer))
        = e'.note c'.id c'.node (e'.reply c'.id answer) := by
      show (e'.call? c'.id).bind _ = _
      rw [h.served.sound.locked.call?_eq_some_iff.mpr ⟨hc', rfl⟩,
        Option.bind_some]
    have hne : (e.reply c.id answer).1 ≠ .waits := by
      rw [hreply]
      simp [close]
    rw [log_singleton, hturn, hturn', note_of_ne hne,
      note_of_ne (hends ▸ hne), hends, bench_eq_of_view hsame,
      bench_eq_of_view h.view, hnode]
    rfl
  · show Runs (e'.reply c'.id answer).2.calls u y
      ↔ Runs (e.reply c.id answer).2.calls u y
    rw [hcalls, hcalls', h.lined.sound.locked.runs_release_iff hc hx,
      h.served.sound.locked.runs_release_iff hc' hx', h.runs, hnode]
  · change d ∈ (e'.reply c'.id answer).2.calls at hd
    rw [hcalls'] at hd
    exact h.busy d (mem_others_iff.mp hd).1

/-- A reply to a call that runs here is a reply to the one that runs there;
    any other is none. -/
theorem Serves.reply (h : Serves e e') (id : CallId) (answer : Reply) :
    ∃ ms, Follows e e' (.act (.reply id answer)) ms := by
  cases hcall : e.call? id with
  | none => exact h.still (by rw [Engine.reply, hcall]) rfl rfl
  | some c =>
      obtain ⟨hc, rfl⟩ := h.lined.sound.locked.call?_eq_some_iff.mp hcall
      cases hx : c.running with
      | none => exact h.still (reply_waiting h.lined hc hx answer) rfl rfl
      | some x => exact h.reply_running hc hx answer

/-- What is no step of a call is done in the same way. -/
theorem Serves.aside (h : Serves e e') (hturn : ∀ k : Engine, k.turn? m = none)
    (hcalls : ∀ k : Engine, (k.move m).calls = k.calls)
    (hview : (e'.move m).view = (e.move m).view)
    (hm : ∀ v, m ≠ .act (.start v)) : Follows e e' m [m] where
  inTurn := ⟨fun v hv => absurd hv (hm v), trivial⟩
  changes := rfl
  log := by rw [log_singleton, hturn, hturn]
  serves :=
    { lined := h.lined.move m
      served := h.served.move m
      view := hview
      runs := fun v x => by
        show Runs (e'.move m).calls v x ↔ _
        rw [hcalls, hcalls, h.runs]
      busy := by
        show ∀ c ∈ (e'.move m).calls, _
        rw [hcalls]
        exact h.busy }

/-- The second engine can follow every move of the first one. -/
theorem Serves.move (h : Serves e e') (hqueue : e.overlap = .queue)
    (m : Move) : ∃ ms, Follows e e' m ms := by
  match m with
  | .act (.start v) => exact h.start hqueue v
  | .act (.resume id) => exact h.resume id
  | .act (.reply id answer) => exact h.reply id answer
  | .act (.select v) =>
      refine ⟨_, h.aside (fun _ => rfl) (fun k => ?_) ?_ nofun⟩
      · show (k.select v).2.calls = k.calls
        unfold select
        split <;> rfl
      · show (e'.select v).2.view = (e.select v).2.view
        rw [select_view, select_view e, h.view]
  | .change b =>
      refine ⟨_, h.aside (fun _ => rfl) (fun _ => rfl) ?_ nofun⟩
      have hview := congrArg (fun k : Engine => { k with bench := b }) h.view
      exact hview

/-! ## Runs -/

/-- What a run in which calls are made in turn has in common with another
    one. -/
structure Serializes (e : Engine) (ms ms' : List Move) : Prop where
  /-- Calls are made in turn. -/
  inTurn : e.InTurn ms'
  /-- The workbench is changed in the same way. -/
  changes : ms'.filterMap Move.change? = ms.filterMap Move.change?
  /-- Calls take the same turns. -/
  log : (e.log ms').map Turn.unnumbered = (e.log ms).map Turn.unnumbered
  /-- All but the calls is the same in the end. -/
  view : (e.moves ms').view = (e.moves ms).view

/-- By induction over the moves: the second engine can follow a whole run. -/
theorem Serves.moves (h : Serves e e') (hqueue : e.overlap = .queue)
    (ms : List Move) :
    ∃ ms', e'.InTurn ms'
      ∧ ms'.filterMap Move.change? = ms.filterMap Move.change?
      ∧ (e'.log ms').map Turn.unnumbered = (e.log ms).map Turn.unnumbered
      ∧ (e'.moves ms').view = (e.moves ms).view := by
  induction ms generalizing e e' with
  | nil => exact ⟨[], trivial, rfl, rfl, h.view⟩
  | cons m ms ih =>
      obtain ⟨first, hfirst⟩ := h.move hqueue m
      obtain ⟨rest, hturn, hchanges, hlog, hview⟩ :=
        ih hfirst.serves ((e.move_settings m).1.trans hqueue)
      refine ⟨first ++ rest, inTurn_append.mpr ⟨hfirst.inTurn, hturn⟩, ?_, ?_,
        ?_⟩
      · rw [List.filterMap_append, hfirst.changes, hchanges,
          ← List.filterMap_append]
        rfl
      · rw [log_append, List.map_append, hfirst.log, hlog, Engine.log,
          List.map_append]
      · rw [moves_append, hview]
        rfl

/-- Where calls wait for each other, a run is like one in which every call is
    made only when its turn has come. -/
theorem exists_inTurn (hquiet : e.Quiet) (hqueue : e.overlap = .queue)
    (ms : List Move) : ∃ ms', Serializes e ms ms' := by
  obtain ⟨ms', hturn, hchanges, hlog, hview⟩ :=
    (Serves.of_quiet hquiet).moves hqueue ms
  exact ⟨ms', hturn, hchanges, hlog, hview⟩

end NodeFlow.Engine
