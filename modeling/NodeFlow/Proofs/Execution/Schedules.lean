import NodeFlow.Proofs.Execution.Independent

/-! # Schedules

    Calls are made on nodes, and whichever of them can takes the next step.
    On independent nodes no call waits for another one, and each finds a
    workbench on which some of the other nodes have run (`Underway`), which is
    nothing to it.  So in the end all schedules have come to the same, which
    is what one call after the other comes to
    (`independent_calls_commute`). -/

namespace NodeFlow.Engine

variable {e e' e₀ : Engine} {c : Call} {m : Move} {p : Progress}
  {v : Handle} {x : Record} {o : Outcome} {request : Request}
  {s : Surroundings} {respond : Request → Reply} {w : Workbench}
  {vs nodes : List Handle} {log : List Turn} {t : Turn} {ms : List Move}

/-! ## Runs of calls -/

/-- Whether a reply to a call is the one to its request. -/
def Answers (respond : Request → Reply) (log : List Turn) (id : CallId)
    (answer : Reply) : Prop :=
  ∀ t ∈ log, t.call = id → ∀ request, t.progress = .asks request →
    answer = respond request

/-- Whether nothing but steps of calls happens in a run, and the replies to
    requests are those of a function. -/
inductive Schedule (respond : Request → Reply) (e₀ : Engine) :
    List Move → Prop where
  /-- Nothing has happened yet. -/
  | nil : Schedule respond e₀ []
  /-- One more step. -/
  | act {ms : List Move} (h : Schedule respond e₀ ms) (a : Action)
      (hreply : ∀ id answer, a = .reply id answer →
        Answers respond (e₀.log ms) id answer) :
      Schedule respond e₀ (ms ++ [.act a])

/-- The nodes that calls are made on in a run. -/
def targets (e : Engine) (ms : List Move) : List Handle :=
  (e.made ms).map Prod.snd

/-- The nodes whose calls have ended, and what the calls came to. -/
def endings (log : List Turn) : List (Handle × Outcome) :=
  log.filterMap (fun t =>
    match t.progress with
    | .ends o => some (t.node, o)
    | _ => none)

theorem targets_append (e : Engine) (ms : List Move) (m : Move) :
    e.targets (ms ++ [m])
      = e.targets ms ++ (((e.moves ms).made? m).map Prod.snd).toList := by
  unfold targets
  rw [made_append, made_singleton, List.map_append]
  cases (e.moves ms).made? m <;> rfl

theorem nodup_of_targets_append (h : (e.targets (ms ++ [m])).Nodup) :
    (e.targets ms).Nodup := by
  rw [targets_append] at h
  exact (List.nodup_append.mp h).1

theorem endings_append_ends (log : List Turn) (h : t.progress = .ends o) :
    endings (log ++ [t]) = endings log ++ [(t.node, o)] := by
  simp [endings, List.filterMap_append, h]

theorem endings_append_asks (log : List Turn)
    (h : t.progress = .asks request) :
    endings (log ++ [t]) = endings log := by
  simp [endings, List.filterMap_append, h]

/-- A call that is made on a node of its own finds no other one there. -/
theorem free_of_nodup (hquiet : e₀.Quiet)
    (hnodup : (e₀.targets (ms ++ [.act (.start v)])).Nodup) :
    ∀ d ∈ (e₀.moves ms).calls, d.node ≠ v := by
  intro d hd hnode
  have hmade := (logged hquiet ms).calls d hd
  have hmem : d.node ∈ e₀.targets ms := List.mem_map.mpr ⟨_, hmade, rfl⟩
  rw [targets_append] at hnodup
  exact (List.nodup_append.mp hnodup).2.2 d.node hmem v (by simp [made?]) hnode

/-- Calls on distinct nodes do not wait for each other. -/
theorem Schedule.allRun (h : Schedule respond e₀ ms) (hquiet : e₀.Quiet)
    (hnodup : (e₀.targets ms).Nodup) : (e₀.moves ms).AllRun := by
  induction h with
  | nil => simp [AllRun, moves, hquiet.calls]
  | @act ms _ a _ ih =>
      rw [moves_append]
      show ((e₀.moves ms).move (.act a)).AllRun
      refine (logged hquiet ms).lined.allRun_move
        (ih (nodup_of_targets_append hnodup)) ?_
      intro v hstart _
      rw [hstart] at hnodup
      exact free_of_nodup hquiet hnodup

/-! ## The invariant -/

/-- What can be said of calls on independent nodes while they run. -/
structure Underway (s : Surroundings) (respond : Request → Reply)
    (w : Workbench) (vs nodes : List Handle) (log : List Turn) (e : Engine) :
    Prop where
  /-- The nodes whose calls have ended have run. -/
  ran : Ran s respond w e.bench ((endings log).map Prod.fst)
  /-- The calls have come to what their nodes come to. -/
  verdicts : ∀ q ∈ endings log, q.2 = verdict s respond w q.1
  /-- The calls on the other nodes are left. -/
  nodes : nodes.Perm ((endings log).map Prod.fst ++ e.calls.map Call.node)
  /-- Every turn has found a workbench on which some nodes had run. -/
  found : ∀ t ∈ log, ∃ l, (∀ u ∈ l, u ∈ vs) ∧ Ran s respond w t.before l

section Turns

variable (h : Underway s respond w vs nodes log e)
include h

/-- A call that is left is on a node that has not run. -/
theorem Underway.fresh (hnodup : nodes.Nodup) (hc : c ∈ e.calls) :
    c.node ∉ (endings log).map Prod.fst := fun hmem =>
  (List.nodup_append.mp (h.nodes.nodup hnodup)).2.2 c.node hmem c.node
    (List.mem_map.mpr ⟨c, hc, rfl⟩) rfl

theorem Underway.mem_nodes (hc : c ∈ e.calls) : c.node ∈ nodes :=
  h.nodes.mem_iff.mpr
    (List.mem_append_right _ (List.mem_map.mpr ⟨c, hc, rfl⟩))

theorem Underway.ended_mem (hsub : ∀ v ∈ nodes, v ∈ vs) :
    ∀ u ∈ (endings log).map Prod.fst, u ∈ vs := fun u hu =>
  hsub u (h.nodes.mem_iff.mpr (List.mem_append_left _ hu))

/-- A call that has asked a backend comes to what its node comes to. -/
theorem Underway.verdict_of_asked (hind : Independent w vs) (hv : v ∈ vs)
    (ht : t ∈ log) (hasked : Asked s v t x request) :
    w.registry.recordOf? v = some x
      ∧ verdict s respond w v = settle x (respond request) := by
  obtain ⟨l, hl, hran⟩ := h.found t ht
  have hrecord := hasked.record
  refine ⟨hran.registry ▸ hrecord, ?_⟩
  calc verdict s respond w v
      = verdict s respond t.before v := (hran.verdict_eq hind hl hv).symm
    _ = evaluate s respond x (collectInputs t.before.graph v x) :=
        verdict_of_record hrecord
    _ = settle x (respond request) := hasked.outcome respond

/-- Neither calls nor the workbench change. -/
theorem Underway.rest (hcalls : e'.calls = e.calls)
    (hbench : e'.bench = e.bench) :
    Underway s respond w vs nodes log e' where
  ran := hbench ▸ h.ran
  verdicts := h.verdicts
  nodes := hcalls ▸ h.nodes
  found := h.found

/-- A call is made. -/
theorem Underway.arrive (ha : Arrived e e' c) (hbench : e'.bench = e.bench) :
    Underway s respond w vs (nodes ++ [c.node]) log e' where
  ran := hbench ▸ h.ran
  verdicts := h.verdicts
  nodes := by
    rw [ha.calls, List.map_append, ← List.append_assoc]
    exact h.nodes.append_right _
  found := h.found

/-- A turn finds a workbench on which the nodes have run whose calls have
    ended. -/
theorem Underway.found_append (hsub : ∀ v ∈ nodes, v ∈ vs)
    (hbefore : t.before = e.bench) :
    ∀ u ∈ log ++ [t], ∃ l, (∀ v ∈ l, v ∈ vs) ∧ Ran s respond w u.before l := by
  intro u hu
  rcases List.mem_append.mp hu with hu | hu
  · exact h.found u hu
  · rw [List.mem_singleton.mp hu, hbefore]
    exact ⟨_, h.ended_mem hsub, h.ran⟩

/-- A call asks a backend. -/
theorem Underway.asks (hsub : ∀ v ∈ nodes, v ∈ vs)
    (hbefore : t.before = e.bench) (hasks : t.progress = .asks request)
    (hcalls : e'.calls = (e.begun c x).calls) (hbench : e'.bench = e.bench) :
    Underway s respond w vs nodes (log ++ [t]) e' where
  ran := by
    rw [endings_append_asks log hasks, hbench]
    exact h.ran
  verdicts := by
    rw [endings_append_asks log hasks]
    exact h.verdicts
  nodes := by
    have hnodes : e'.calls.map Call.node = e.calls.map Call.node := by
      rw [hcalls]
      show (e.calls.map (started c x)).map Call.node = _
      rw [List.map_map, show Call.node ∘ started c x = Call.node from
        funext (started_node c x)]
    rw [endings_append_asks log hasks, hnodes]
    exact h.nodes
  found := h.found_append hsub hbefore

/-- A call ends. -/
theorem Underway.ends (hsub : ∀ v ∈ nodes, v ∈ vs)
    (hbefore : t.before = e.bench) (hnode : t.node = c.node)
    (hends : t.progress = .ends o) (ho : verdict s respond w c.node = o)
    (hids : (e.calls.map Call.id).Nodup) (hc : c ∈ e.calls)
    (hcalls : e'.calls = (e.release c).calls)
    (hran : Ran s respond w e'.bench
      ((endings log).map Prod.fst ++ [c.node])) :
    Underway s respond w vs nodes (log ++ [t]) e' where
  ran := by
    rw [endings_append_ends log hends, List.map_append, hnode]
    exact hran
  verdicts := by
    rw [endings_append_ends log hends, hnode]
    intro q hq
    rcases List.mem_append.mp hq with hq | hq
    · exact h.verdicts q hq
    · rw [List.mem_singleton.mp hq]
      exact ho.symm
  nodes := by
    have hleft : (e.calls.map Call.node).Perm
        (c.node :: e'.calls.map Call.node) := by
      rw [hcalls]
      exact (perm_cons_filter hids hc).map Call.node
    rw [endings_append_ends log hends, hnode, List.map_append,
      List.append_assoc]
    exact h.nodes.trans (hleft.append_left _)
  found := h.found_append hsub hbefore

end Turns

/-- A call takes a turn. -/
theorem Underway.turn (h : Underway e₀.surroundings respond e₀.bench vs nodes
      log e) (hind : Independent e₀.bench vs) (hnodup : nodes.Nodup)
    (hsub : ∀ v ∈ nodes, v ∈ vs) {made : List (CallId × Handle)}
    (hlogged : Logged e₀ ms made log e) (hc : c ∈ e.calls)
    (hwent : Went e c m p e'.calls e'.bench)
    (hanswers : ∀ answer, m = .act (.reply c.id answer) →
      Answers respond log c.id answer) :
    Underway e₀.surroundings respond e₀.bench vs nodes
      (log ++ [e.turnOf c p e'.bench]) e' := by
  have hids := hlogged.lined.sound.locked.ids
  have hv := hsub _ (h.mem_nodes hc)
  have hfresh := h.fresh hnodup hc
  have hverdict := h.ran.verdict_eq hind (h.ended_mem hsub) hv
  have hregistry := h.ran.registry
  -- the node is settled once its record and what the call came to are known
  have hlatch : ∀ {x o}, e₀.bench.registry.recordOf? c.node = some x →
      verdict e₀.surroundings respond e₀.bench c.node = o →
      e'.bench = e.bench.latch c.node x o →
      Ran e₀.surroundings respond e₀.bench e'.bench
        ((endings log).map Prod.fst ++ [c.node]) := by
    rintro x o hx rfl hbench
    rw [hbench]
    exact h.ran.latch hfresh hx
  generalize hcalls : e'.calls = calls at hwent
  generalize hbench : e'.bench = bench at hwent
  cases hwent with
  | missing hwait hnone =>
      have ho : verdict e₀.surroundings respond e₀.bench c.node
          = .skipped "no record for node" := by
        rw [← hverdict, verdict, hnone]
      refine h.ends hsub rfl rfl rfl ho hids hc hcalls ?_
      rw [hregistry] at hnone
      exact hbench ▸ h.ran.missing hnone
  | @refused x error hwait hx ho =>
      rw [hlogged.settings.2] at ho
      have ho : verdict e₀.surroundings respond e₀.bench c.node
          = .failed error := by
        rw [← hverdict, verdict_of_record hx, ho]
      rw [hregistry] at hx
      exact h.ends hsub rfl rfl rfl ho hids hc hcalls
        (hlatch hx ho hbench)
  | @asks x request hwait hx ho =>
      exact h.asks hsub rfl rfl hcalls hbench
  | @answers x reply hx hm =>
      obtain ⟨t, ht, hid, request, hasked⟩ := hlogged.exists_asked hc hx
      obtain rfl := hanswers reply hm t ht hid request hasked.asks
      obtain ⟨hx', ho⟩ := h.verdict_of_asked hind hv ht hasked
      exact h.ends hsub rfl rfl rfl ho hids hc hcalls
        (hlatch hx' ho hbench)

/-- The invariant holds at any time. -/
theorem Schedule.underway (h : Schedule respond e₀ ms) (hquiet : e₀.Quiet)
    (hind : Independent e₀.bench vs) (hnodup : (e₀.targets ms).Nodup)
    (hsub : ∀ v ∈ e₀.targets ms, v ∈ vs) :
    Underway e₀.surroundings respond e₀.bench vs (e₀.targets ms) (e₀.log ms)
      (e₀.moves ms) := by
  -- by induction on the schedule: what is underway is the calls that have been
  -- made so far
  induction h with
  | nil =>
      exact
        { ran := .refl e₀.bench
          verdicts := nofun
          nodes := by simp [endings, log, targets, made, moves, hquiet.calls]
          found := nofun }
  | @act ms _ a hreply ih =>
      have happend := targets_append e₀ ms (.act a)
      have hbefore := nodup_of_targets_append hnodup
      have hsub' : ∀ v ∈ e₀.targets ms, v ∈ vs := fun v hv => hsub v (by
        rw [happend]
        exact List.mem_append_left _ hv)
      have hunder := ih hbefore hsub'
      have hlogged := logged hquiet ms
      rw [log_append, log_singleton, moves_append, happend]
      show Underway _ _ _ _ _ _ ((e₀.moves ms).move (.act a))
      -- no node is called twice, so no other call is on its node
      have hfree : ∀ v, Move.act a = .act (.start v) →
          ∀ d ∈ (e₀.moves ms).calls, d.node ≠ v := fun v hstart =>
        free_of_nodup hquiet (hstart ▸ hnodup)
      cases hlogged.lined.moved (.act a) with
      | rests hmade hturn hcalls _ hbench =>
          rw [hmade, hturn]
          simp only [Option.map_none, Option.toList_none, List.append_nil]
          exact hunder.rest hcalls (hbench (by simp))
      -- that is why none waits and none is dropped
      | waits hm _ _ _ hbehind =>
          obtain ⟨d, hd, hnode⟩ := hbehind
          exact absurd hnode (hfree _ hm d hd)
      | drops hm _ _ _ _ _ _ hbehind =>
          obtain ⟨d, hd, hnode⟩ := hbehind
          exact absurd hnode (hfree _ hm d hd)
      -- it is underway once it has arrived, and then takes its turn
      | @begins e₁ c p hm ha hsettings hbench hgoes hturn hnext =>
          have hmade := ha.made? hm
          rw [happend, hmade] at hnodup hsub
          rw [hmade, hturn, ← hbench]
          refine (hunder.arrive ha hbench).turn hind hnodup hsub
            (hlogged.arrive ha hsettings) (by simp [ha.calls]) hgoes ?_
          intro answer hreply
          rw [hm] at hreply
          cases hreply
      | @goes c p hmade hc hgoes hturn =>
          rw [hmade, hturn]
          simp only [Option.map_none, Option.toList_none, List.append_nil]
          refine hunder.turn hind hbefore hsub' hlogged hc hgoes ?_
          intro answer hm
          cases hm
          exact hreply _ answer rfl

/-! ## To the end -/

/-- Whether a run is one of calls on some nodes, one on each, that have all
    ended. -/
structure Complete (respond : Request → Reply) (e₀ : Engine)
    (vs : List Handle) (ms : List Move) : Prop where
  /-- Nothing but steps of calls happens. -/
  schedule : Schedule respond e₀ ms
  /-- A call is made on each of the nodes. -/
  targets : (e₀.targets ms).Perm vs
  /-- No call is left. -/
  calls : (e₀.moves ms).calls = []

/-- More calls may be made at any time. -/
theorem Schedule.more (h : Schedule respond e₀ ms) (l : List Handle) :
    ∃ ms', Schedule respond e₀ (ms ++ ms')
      ∧ e₀.targets (ms ++ ms') = e₀.targets ms ++ l := by
  induction l generalizing ms with
  | nil => exact ⟨[], by simpa using h, by simp⟩
  | cons v l ih =>
      have hnext := h.act (.start v) (fun id answer hreply => by cases hreply)
      obtain ⟨ms', hschedule, htargets⟩ := ih hnext
      rw [List.append_assoc] at hschedule htargets
      refine ⟨_, hschedule, htargets.trans ?_⟩
      rw [targets_append, List.append_assoc]
      rfl

/-- A call that has asked a backend may be answered. -/
theorem Schedule.answer (h : Schedule respond e₀ ms) (hquiet : e₀.Quiet)
    (hc : c ∈ (e₀.moves ms).calls) (hx : c.running = some x) :
    ∃ m, Schedule respond e₀ (ms ++ [m])
      ∧ e₀.targets (ms ++ [m]) = e₀.targets ms
      ∧ (e₀.moves (ms ++ [m])).calls = ((e₀.moves ms).release c).calls := by
  have hlogged := logged hquiet ms
  obtain ⟨t, request, hturns, hasked⟩ := hlogged.running c hc x hx
  refine ⟨.act (.reply c.id (respond request)), h.act _ ?_, ?_, ?_⟩
  · rintro id answer ⟨⟩ u hu hid request' hasks
    -- the call has taken one turn, and so has asked once
    have hmem : u ∈ turnsOf c.id (e₀.log ms) :=
      List.mem_filter.mpr ⟨hu, by simpa using hid⟩
    rw [hturns] at hmem
    rw [List.mem_singleton.mp hmem, hasked.asks] at hasks
    cases hasks
    rfl
  · rw [targets_append]
    exact List.append_nil _
  · rw [moves_append]
    exact reply_calls hlogged.lined hc hx _

/-- Calls on distinct nodes may be answered until none is left. -/
theorem Schedule.finish (h : Schedule respond e₀ ms) (hquiet : e₀.Quiet)
    (hnodup : (e₀.targets ms).Nodup) :
    ∃ ms', Schedule respond e₀ (ms ++ ms')
      ∧ e₀.targets (ms ++ ms') = e₀.targets ms
      ∧ (e₀.moves (ms ++ ms')).calls = [] := by
  -- by induction on the number of calls that are left
  generalize hcount : (e₀.moves ms).calls.length = count
  induction count generalizing ms with
  | zero =>
      exact ⟨[], by simpa using h, by simp,
        by simpa using List.length_eq_zero_iff.mp hcount⟩
  | succ count ih =>
      obtain ⟨c, hc⟩ := List.exists_mem_of_length_pos
        (Nat.lt_of_lt_of_eq (Nat.succ_pos count) hcount.symm)
      obtain ⟨x, hx⟩ :=
        Option.isSome_iff_exists.mp (h.allRun hquiet hnodup c hc)
      obtain ⟨m, hnext, htargets, hcalls⟩ := h.answer hquiet hc hx
      have hids := (logged hquiet ms).lined.sound.locked.ids
      have hfewer := (perm_cons_filter hids hc).length_eq
      rw [hcount, List.length_cons] at hfewer
      obtain ⟨ms', hschedule, htargets', hdone⟩ :=
        ih hnext (htargets ▸ hnodup) (by
          rw [hcalls]
          exact (Nat.succ.inj hfewer).symm)
      rw [List.append_assoc] at hschedule htargets' hdone
      exact ⟨_, hschedule, htargets'.trans htargets, hdone⟩

/-- What has been begun can be completed. -/
theorem Schedule.complete (h : Schedule respond e₀ ms) (hquiet : e₀.Quiet)
    (hvs : vs.Nodup) (hnodup : (e₀.targets ms).Nodup)
    (hsub : ∀ v ∈ e₀.targets ms, v ∈ vs) :
    ∃ ms', Complete respond e₀ vs (ms ++ ms') := by
  -- calls are made on the nodes that are left, and then all are answered
  let left := vs.filter (fun v => v ∉ e₀.targets ms)
  have hall : (e₀.targets ms ++ left).Perm vs := by
    have hdisjoint : (e₀.targets ms ++ left).Nodup := by
      refine List.nodup_append.mpr ⟨hnodup, hvs.filter _, ?_⟩
      rintro u hu v hv rfl
      simp [left, hu] at hv
    rw [List.perm_ext_iff_of_nodup hdisjoint hvs]
    intro v
    by_cases hv : v ∈ e₀.targets ms
    · simp [hv, hsub v hv]
    · simp [left, hv]
  obtain ⟨ms₁, hmore, htargets⟩ := h.more left
  obtain ⟨ms₂, hfinish, htargets', hcalls⟩ :=
    hmore.finish hquiet (htargets ▸ hall.symm.nodup hvs)
  rw [List.append_assoc] at hfinish htargets' hcalls
  exact ⟨ms₁ ++ ms₂, hfinish, (htargets'.trans htargets) ▸ hall, hcalls⟩

/-- What becomes of calls on nodes, one on each. -/
structure Commuting (respond : Request → Reply) (e₀ : Engine)
    (vs : List Handle) : Prop where
  /-- However their steps have been chosen so far, the calls can all be made
      and brought to an end. -/
  completes : ∀ ms, Schedule respond e₀ ms → (e₀.targets ms).Nodup →
    (∀ v ∈ e₀.targets ms, v ∈ vs) → ∃ ms', Complete respond e₀ vs (ms ++ ms')
  /-- Meanwhile every call that is left has asked a backend: none waits for
      another call. -/
  unhindered : ∀ ms, Schedule respond e₀ ms → (e₀.targets ms).Nodup →
    (e₀.moves ms).AllRun
  /-- In the end they have come to the same, node by node, as calls on one
      node after the other in any order, and graph and records are the same
      then. -/
  same : ∀ ms, Complete respond e₀ vs ms → ∀ l : List Handle, l.Perm vs →
    ∃ outcomes e', executeEach (m := Id) respond e₀ l = (outcomes, e')
      ∧ outcomes.map Prod.fst = l
      ∧ (endings (e₀.log ms)).Perm outcomes
      ∧ (e₀.moves ms).bench = e'.bench
      ∧ (e₀.moves ms).Quiet ∧ e'.Quiet

/-- Outcomes that are decided by their nodes. -/
theorem endings_eq_map (h : ∀ q ∈ endings log, q.2 = verdict s respond w q.1) :
    endings log = ((endings log).map Prod.fst).map
      (fun v => (v, verdict s respond w v)) := by
  rw [List.map_map]
  refine (List.map_id _).symm.trans (List.map_congr_left (fun q hq => ?_))
  exact Prod.ext rfl (h q hq)

/-- Calls on independent nodes commute. -/
theorem independent_calls_commute (hquiet : e₀.Quiet)
    (hind : Independent e₀.bench vs) : Commuting respond e₀ vs where
  completes ms h hnodup hsub := h.complete hquiet hind.distinct hnodup hsub
  unhindered ms h hnodup := h.allRun hquiet hnodup
  same ms h l hl := by
    have hunder := h.schedule.underway hquiet hind
      (h.targets.symm.nodup hind.distinct)
      (fun v hv => h.targets.mem_iff.mp hv)
    -- once no call is left, all that were made have ended
    have hended : ((endings (e₀.log ms)).map Prod.fst).Perm l := by
      have hnodes := hunder.nodes
      rw [h.calls, List.map_nil, List.append_nil] at hnodes
      exact (hnodes.symm.trans h.targets).trans hl.symm
    have hsub : ∀ u ∈ [] ++ l, u ∈ vs := fun u hu => hl.mem_iff.mp hu
    have hnodup : ([] ++ l).Nodup := hl.symm.nodup hind.distinct
    obtain ⟨e', hexec, hquiet', hran⟩ :=
      executeEach_ran hquiet hind (.refl e₀.bench) hsub hnodup
    -- the outcome of a call is the same wherever it stands, as no other call
    -- feeds its node
    refine ⟨_, e', hexec, ?_, ?_, ?_, ?_, hquiet'⟩
    · rw [List.map_map]
      exact List.map_id l
    · rw [endings_eq_map hunder.verdicts]
      exact hended.map _
    · exact hunder.ran.unique hran (fun v => hended.mem_iff)
    · exact (logged hquiet ms).lined.sound.quiet h.calls

/-- Two sums, one of which takes a value from a third one.  The call that was
    made last ends first. -/
theorem independent_calls_commute_sums :
    let w : Workbench :=
      ⟨{}, { templates := Table.empty.insert "math/sum" Template.sum }⟩
    let add (w : Workbench) := (w.addNode "math/sum").2
    let g := (add (add (add w))).graph
    let g₁ := Workbench.attempt g (g.setOutputData 3 0 (some (.bool true)))
    let g₂ := Workbench.attempt g₁ (g₁.connect 3 0 1 0)
    let e₀ : Engine := { bench := { add (add (add w)) with graph := g₂ } }
    let respond : Request → Reply
      | .script _ inputs =>
          .ok (.single ((inputs.get? "input_0").getD (.bool false)))
      | _ => .error (.timeout 0)
    let ms : List Move :=
      [.act (.start 1), .act (.start 2),
        .act (.reply 1 (.ok (.single (.bool false)))),
        .act (.reply 0 (.ok (.single (.bool true))))]
    Commuting respond e₀ [1, 2] ∧ Complete respond e₀ [1, 2] ms
      ∧ endings (e₀.log ms)
        = [(2, .completed [some (.bool false)]),
          (1, .completed [some (.bool true)])]
      ∧ (e₀.moves ms).bench
        = (executeEach (m := Id) respond e₀ [1, 2]).2.bench := by
  intro w add g g₁ g₂ e₀ respond ms
  have hcommute : Commuting respond e₀ [1, 2] :=
    independent_calls_commute ⟨rfl, rfl, fun _ => rfl⟩
      ⟨by decide, by decide⟩
  -- the second call is sent nothing, the first one what the third node holds
  have hsent₂ : ∀ t ∈ e₀.log [.act (.start 1), .act (.start 2)], t.call = 1 →
      t.progress = .asks (.script Template.sum.code Table.empty) := by
    decide
  have hsent₁ : ∀ t ∈ e₀.log (ms.take 3), t.call = 0 →
      t.progress = .asks (.script Template.sum.code
        (Table.empty.insert "input_0" (.bool true))) := by
    decide
  have hschedule : Schedule respond e₀ ms := by
    refine (((Schedule.nil.act (.start 1) nofun).act (.start 2) nofun).act
      (.reply 1 _) ?_).act (.reply 0 _) ?_
    · rintro _ _ ⟨⟩ t ht hid request hasks
      rw [hsent₂ t ht hid] at hasks
      cases hasks
      rfl
    · rintro _ _ ⟨⟩ t ht hid request hasks
      rw [hsent₁ t ht hid] at hasks
      cases hasks
      rfl
  have hcomplete : Complete respond e₀ [1, 2] ms :=
    ⟨hschedule, by decide, by decide⟩
  obtain ⟨outcomes, e', hexec, -, -, hbench, -⟩ :=
    hcommute.same ms hcomplete [1, 2] (.refl _)
  exact ⟨hcommute, hcomplete, by decide, hexec ▸ hbench⟩

end NodeFlow.Engine
