import NodeFlow.Proofs.Execution.Serial

/-! # Calls that overlap

    Under one policy calls on a node run their cycles one after the other, in
    the order in which they were made, as if each had been made only when its
    turn came.  Under the other policy a call is dropped exactly if a cycle
    runs for its node when it is made, and nothing comes of it
    (`overlap_policy`). -/

namespace NodeFlow.Engine

variable {e e' e₀ : Engine} {c d : Call} {m : Move} {v : Handle}
  {id : CallId} {ms ms' : List Move} {log : List Turn}
  {made : List (CallId × Handle)} {t : Turn}

/-! ## Calls that wait -/

/-- What can be said of a run in which calls wait for each other. -/
structure Queued (e₀ : Engine) (ms : List Move) : Prop where
  /-- A call that has ended has run one cycle, or there was no record when its
      turn came. -/
  whole : ∀ id v, (id, v) ∈ e₀.made ms →
    (∀ c ∈ (e₀.moves ms).calls, c.id ≠ id) →
    Whole e₀.surroundings ms v (turnsOf id (e₀.log ms))
  /-- A call whose turn has not come has done nothing. -/
  waiting : ∀ c ∈ (e₀.moves ms).calls, c.running = none →
    turnsOf c.id (e₀.log ms) = []
  /-- A call whose turn has come and that has not ended has asked a
      backend. -/
  running : ∀ c ∈ (e₀.moves ms).calls, ∀ x, c.running = some x →
    ∃ t request, turnsOf c.id (e₀.log ms) = [t]
      ∧ Asked e₀.surroundings c.node t x request
  /-- The turn of a call that waits comes once it is the first of those left
      on its node. -/
  next : ∀ c ∈ (e₀.moves ms).calls, c.running = none →
    (((e₀.moves ms).turn? (.act (.resume c.id))).isSome = true
      ↔ ∀ d ∈ (e₀.moves ms).calls, d.node = c.node → c.id ≤ d.id)
  /-- A call that takes a turn finds what all moves before have left, and all
      calls made before it on its node have ended by then. -/
  inOrder : ∀ m t, (e₀.moves ms).turn? m = some t →
    t.before = (e₀.moves ms).bench
      ∧ ∀ id, (id, t.node) ∈ e₀.made (ms ++ [m]) → id < t.call →
        ∃ u ∈ e₀.log ms, u.call = id ∧ ∃ o, u.progress = .ends o
  /-- The run is one in which every call is made only when its turn has
      come, but for the time at which calls are made. -/
  serial : ∃ ms', Serializes e₀ ms ms'

/-- A call that was made on a node and is not left there has ended. -/
theorem Logged.exists_end (h : Logged e₀ ms made log e)
    (hqueue : e₀.overlap = .queue) (hmem : (id, v) ∈ made)
    (hgone : ∀ d ∈ e.calls, d.node = v → d.id ≠ id) :
    ∃ u ∈ log, u.call = id ∧ ∃ o, u.progress = .ends o := by
  have hended := h.ended id v hmem (fun d hd hid =>
    hgone d hd (h.node_unique (hid ▸ h.calls d hd) hmem) hid)
  obtain hwhole | ⟨hdrop, -⟩ := hended
  · obtain ⟨u, hu, hend⟩ := hwhole.exists_end
    obtain ⟨hu, hid⟩ := List.mem_filter.mp hu
    exact ⟨u, hu, by simpa using hid, hend⟩
  · rw [hqueue] at hdrop
    cases hdrop

theorem Logged.inOrder (h : Logged e₀ ms made log e)
    (hqueue : e₀.overlap = .queue) (hturn : e.turn? m = some t) :
    t.before = e.bench
      ∧ ∀ id, (id, t.node) ∈ made ++ (e.made? m).toList → id < t.call →
        ∃ u ∈ log, u.call = id ∧ ∃ o, u.progress = .ends o := by
  cases h.lined.moved m with
  -- a move that is no turn has none in the log
  | rests _ hnone =>
      rw [hnone] at hturn
      cases hturn
  | waits _ hnone =>
      rw [hnone] at hturn
      cases hturn
  | drops _ _ _ _ _ _ hdrop =>
      -- no call is dropped where calls queue up
      rw [← h.settings.1, hdrop] at hqueue
      cases hqueue
  | @begins e₁ c p hm ha _ _ _ hsome _ hfree =>
      rw [hsome] at hturn
      cases hturn
      refine ⟨rfl, fun id hmem hlt => ?_⟩
      -- a call that begins at once has no other one on its node before it
      rw [ha.made? hm] at hmem
      rcases List.mem_append.mp hmem with hmem | hmem
      · exact h.exists_end hqueue hmem (fun d hd hnode =>
          absurd hnode (hfree d hd))
      · cases List.mem_singleton.mp hmem
        exact absurd hlt (Nat.lt_irrefl _)
  | @goes c p hmade _ _ hsome _ hfirst =>
      rw [hsome] at hturn
      cases hturn
      refine ⟨rfl, fun id hmem hlt => ?_⟩
      -- a call that goes on is the first one on its node
      rw [hmade, Option.toList_none, List.append_nil] at hmem
      exact h.exists_end hqueue hmem (fun d hd hnode hid =>
        Nat.not_le.mpr hlt (hid ▸ hfirst d hd hnode))

/-- A call that waits gets on exactly if it is the first on its node. -/
theorem Lined.resume_isSome_iff (h : e.Lined) (hc : c ∈ e.calls)
    (hwait : c.running = none) :
    (e.turn? (.act (.resume c.id))).isSome = true
      ↔ ∀ d ∈ e.calls, d.node = c.node → c.id ≤ d.id := by
  have hturn : e.turn? (.act (.resume c.id))
      = e.note c.id c.node (e.resume c.id) := by
    show (e.call? c.id).bind _ = _
    rw [h.sound.locked.call?_eq_some_iff.mpr ⟨hc, rfl⟩, Option.bind_some]
  rw [hturn]
  constructor
  · intro hsome
    apply Classical.byContradiction
    intro hbehind
    rw [resume_behind h hc (fun _ => hbehind), note_waits] at hsome
    cases hsome
  · intro hfirst
    obtain ⟨hresume, howns⟩ := resume_first h hc hwait hfirst
    have hwent := went_enter (m := .act (.resume c.id)) howns hwait
    rw [hresume, note_of_ne hwent.ne_waits]
    rfl

theorem queued (hquiet : e₀.Quiet) (hqueue : e₀.overlap = .queue)
    (ms : List Move) : Queued e₀ ms := by
  have h := logged hquiet ms
  constructor
  case whole =>
    intro id v hmem hgone
    obtain hwhole | ⟨hdrop, -⟩ := h.ended id v hmem hgone
    · exact hwhole
    · rw [hqueue] at hdrop
      cases hdrop
  case waiting => exact h.waiting
  case running => exact h.running
  case next => exact fun c hc hwait => h.lined.resume_isSome_iff hc hwait
  case inOrder =>
    intro m t hturn
    rw [made_append, made_singleton]
    exact h.inOrder hqueue hturn
  case serial => exact exists_inTurn hquiet hqueue ms

/-! ## Calls that are dropped -/

/-- What becomes of a call that is made after some moves and before others
    where overlapping calls are dropped. -/
structure Dropping (e₀ : Engine) (ms : List Move) (v : Handle)
    (ms' : List Move) : Prop where
  /-- A cycle runs for a node exactly while the node is not idle. -/
  busy : (e₀.moves ms).Busy v ↔ (e₀.moves ms).state v ≠ .idle
  /-- The call comes to be dropped, now or later, exactly if a cycle runs for
      the node when it is made. -/
  dropped : (∃ t ∈ turnsOf (e₀.moves ms).nextCall
      (e₀.log (ms ++ .act (.start v) :: ms')),
        t.progress = .ends (.skipped "already running"))
    ↔ (e₀.moves ms).Busy v
  /-- Then it is dropped at once, which is all that it does: it asks no
      backend and leaves the workbench as it found it. -/
  silent : (e₀.moves ms).Busy v →
    turnsOf (e₀.moves ms).nextCall (e₀.log (ms ++ .act (.start v) :: ms'))
      = [⟨(e₀.moves ms).nextCall, v, (e₀.moves ms).bench,
          .ends (.skipped "already running"), (e₀.moves ms).bench⟩]
  /-- It leaves the states of all nodes and the calls as they were. -/
  still : (e₀.moves ms).Busy v →
    ((e₀.moves ms).move (.act (.start v))).states = (e₀.moves ms).states
      ∧ ((e₀.moves ms).move (.act (.start v))).calls = (e₀.moves ms).calls
  /-- Otherwise it runs a cycle as soon as it is made, or there is no
      record. -/
  runs : ¬ (e₀.moves ms).Busy v →
    (∀ c ∈ (e₀.moves (ms ++ .act (.start v) :: ms')).calls,
      c.id ≠ (e₀.moves ms).nextCall) →
    Whole e₀.surroundings (ms ++ .act (.start v) :: ms') v
      (turnsOf (e₀.moves ms).nextCall
        (e₀.log (ms ++ .act (.start v) :: ms')))

/-- A turn in which a call is dropped is the only turn of the call. -/
theorem Logged.turnsOf_dropped (h : Logged e₀ ms made log e) (ht : t ∈ log)
    (hend : t.progress = .ends (.skipped "already running")) :
    turnsOf t.call log = [t] := by
  have hmem : t ∈ turnsOf t.call log := List.mem_filter.mpr ⟨ht, by simp⟩
  obtain hwhole | ⟨-, u, hu, -⟩ := h.ended t.call t.node (h.turns t ht)
    (h.gone_of_end ht hend)
  · exact absurd hend (hwhole.ne_dropped hmem)
  · rw [hu] at hmem ⊢
    rw [List.mem_singleton.mp hmem]

/-- The turn that a move is stands in every log of the move. -/
theorem mem_log_of_turn? (hturn : (e₀.moves ms).turn? m = some t)
    (ms' : List Move) : t ∈ e₀.log (ms ++ m :: ms') := by
  rw [log_append, Engine.log, hturn]
  simp

theorem dropping (hquiet : e₀.Quiet) (hdrop : e₀.overlap = .drop)
    (ms : List Move) (v : Handle) (ms' : List Move) :
    Dropping e₀ ms v ms' := by
  have h := logged hquiet ms
  have hwhole := logged hquiet (ms ++ .act (.start v) :: ms')
  have hpolicy : (e₀.moves ms).overlap = .drop := h.settings.1.trans hdrop
  have hall := hquiet.allRun_moves hdrop ms
  -- every call that is left runs its cycle, and so keeps its node busy
  have hbusy : (e₀.moves ms).Busy v
      ↔ ∃ d ∈ (e₀.moves ms).calls, d.node = v :=
    ⟨fun ⟨d, hd, hnode, _⟩ => ⟨d, hd, hnode⟩,
      fun ⟨d, hd, hnode⟩ => ⟨d, hd, hnode, hall d hd⟩⟩
  have hstate := (h.lined.sound.states v).symm
  have hmade : ((e₀.moves ms).nextCall, v)
      ∈ e₀.made (ms ++ .act (.start v) :: ms') := by
    rw [made_append]
    exact List.mem_append_right _ List.mem_cons_self
  have hmoved := h.lined.moved (.act (.start v))
  cases hmoved with
  | rests hnone => cases hnone
  | goes hnone => cases hnone
  | waits _ _ _ hqueue =>
      rw [hpolicy] at hqueue
      cases hqueue
  | drops hm hturn hcalls _ _ hstates _ hbehind =>
      cases hm
      have hmem := mem_log_of_turn? hturn ms'
      have honly := hwhole.turnsOf_dropped hmem rfl
      have hbusy' := hbusy.mpr hbehind
      exact
        { busy := hstate
          dropped := iff_of_true (by rw [honly]; simp) hbusy'
          silent := fun _ => honly
          still := fun _ => ⟨hstates, hcalls⟩
          runs := fun hidle => absurd hbusy' hidle }
  | @begins e₁ c p hm ha _ _ hgoes hturn _ hfree =>
      cases hm
      have hidle : ¬ (e₀.moves ms).Busy c.node := by
        rw [hbusy]
        rintro ⟨d, hd, hnode⟩
        exact hfree d hd hnode
      -- the first turn of the call tells that it is not dropped
      have hmem := mem_log_of_turn? hturn ms'
      have hfirst : (⟨c.id, c.node, (e₀.moves ms).bench, p,
          ((e₀.moves ms).move (.act (.start c.node))).bench⟩ : Turn)
          ∈ turnsOf (e₀.moves ms).nextCall
            (e₀.log (ms ++ .act (.start c.node) :: ms')) :=
        List.mem_filter.mpr ⟨hmem, by simp [ha.id]⟩
      have hnot : ∀ u, turnsOf (e₀.moves ms).nextCall
          (e₀.log (ms ++ .act (.start c.node) :: ms')) = [u] →
          u.progress ≠ .ends (.skipped "already running") := fun u hu => by
        rw [hu] at hfirst
        rw [← List.mem_singleton.mp hfirst]
        exact hgoes.ne_dropped
      refine
        { busy := hstate
          dropped := iff_of_false ?_ hidle
          silent := fun hbusy' => absurd hbusy' hidle
          still := fun hbusy' => absurd hbusy' hidle
          runs := fun _ hgone => ?_ }
      · rintro ⟨u, hu, hend⟩
        obtain ⟨hu, hid⟩ := List.mem_filter.mp hu
        have hcall : u.call = (e₀.moves ms).nextCall := by simpa using hid
        exact hnot u (hcall ▸ hwhole.turnsOf_dropped hu hend) hend
      · obtain hcycle | ⟨-, u, hu, hend⟩ := hwhole.ended _ _ hmade hgone
        · exact hcycle
        · exact absurd hend (hnot u hu)

/-! ## Both policies -/

/-- Calls that overlap wait for each other or are dropped, as the policy
    says. -/
theorem overlap_policy (hquiet : e₀.Quiet) :
    (e₀.overlap = .queue → ∀ ms, Queued e₀ ms)
      ∧ (e₀.overlap = .drop → ∀ ms v ms', Dropping e₀ ms v ms') :=
  ⟨queued hquiet, dropping hquiet⟩

/-- Three calls on a sum that is removed while the second one runs, and a call
    that is made while another one runs. -/
theorem overlap_policy_sum :
    let w : Workbench :=
      ⟨{}, { templates := Table.empty.insert "math/sum" Template.sum }⟩
    let e₀ : Engine := { bench := (w.addNode "math/sum").2, overlap := .queue }
    let e₁ : Engine := { e₀ with overlap := .drop }
    let call : Move := .act (.start 1)
    let answer (id : CallId) : Move :=
      .act (.reply id (.ok (.single (.bool true))))
    let ms : List Move :=
      [call, call, call, answer 0, .act (.resume 2), .act (.resume 1),
        .change (e₀.bench.removeNode 1).2, answer 1, .act (.resume 2)]
    let completed : Progress := .ends (.completed [some (.bool true)])
    Queued e₀ ms
      ∧ (e₀.log ms).map Turn.call = [0, 0, 1, 1, 2]
      ∧ ((e₀.log ms).map Turn.progress).drop 3
        = [completed, .ends (.skipped "no record for node")]
      ∧ Dropping e₁ [call] 1 [answer 0, call] ∧ (e₁.moves [call]).Busy 1
      ∧ (e₁.log [call, call, answer 0, call]).map Turn.call
        = [0, 1, 0, 2] := by
  intro w e₀ e₁ call answer ms completed
  have hquiet₀ : e₀.Quiet := ⟨rfl, rfl, fun _ => rfl⟩
  have hquiet₁ : e₁.Quiet := ⟨rfl, rfl, fun _ => rfl⟩
  have hqueue := overlap_policy hquiet₀
  have hdrop := overlap_policy hquiet₁
  have hdropping := hdrop.2 rfl [call] 1 [answer 0, call]
  exact ⟨hqueue.1 rfl ms, by decide, by decide, hdropping,
    hdropping.busy.mpr (by decide), by decide⟩

end NodeFlow.Engine
