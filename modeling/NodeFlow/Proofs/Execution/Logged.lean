import NodeFlow.Proofs.Execution.Moves

/-! # What the log says of a call

    A call takes no turn while it waits and one when it asks a backend.  One
    that has ended either was dropped, or its turns are those of one whole
    cycle, or its node had no record (`logged`). -/

namespace NodeFlow.Engine

variable {e e' e₀ : Engine} {c d : Call} {m : Move} {p : Progress}
  {v : Handle} {x : Record} {id : CallId} {s : Surroundings}
  {ms ms' : List Move} {log : List Turn} {made : List (CallId × Handle)}
  {t : Turn}

/-! ## Cycles in a log -/

/-- Whether a turn asks a backend for a record of a node: what it asks for
    decides what the record comes to on the inputs that it found. -/
structure Asked (s : Surroundings) (v : Handle) (t : Turn) (x : Record)
    (request : Request) : Prop where
  /-- The node. -/
  node : t.node = v
  /-- The record is the one that the node has then. -/
  record : t.before.registry.recordOf? v = some x
  /-- The outcome is what the reply comes to. -/
  outcome : ∀ respond, evaluate s respond x
    (collectInputs t.before.graph v x) = settle x (respond request)
  /-- A backend is asked. -/
  asks : t.progress = .asks request
  /-- Nothing else happens. -/
  after : t.after = t.before

/-- Whether turns are all that a call does that runs one cycle, or that finds
    no record when its turn comes. -/
inductive Whole (s : Surroundings) (ms : List Move) (v : Handle) :
    List Turn → Prop where
  /-- There is no record. -/
  | missing {t : Turn} (node : t.node = v)
      (record : t.before.registry.recordOf? v = none)
      (ends : t.progress = .ends (.skipped "no record for node"))
      (after : t.after = t.before) : Whole s ms v [t]
  /-- The cycle fails whatever backends reply. -/
  | refused {t : Turn} {x : Record} {error : String} (node : t.node = v)
      (record : t.before.registry.recordOf? v = some x)
      (outcome : ∀ respond, evaluate s respond x
        (collectInputs t.before.graph v x) = .failed error)
      (ends : t.progress = .ends (.failed error))
      (after : t.after = t.before.latch v x (.failed error)) :
      Whole s ms v [t]
  /-- A backend is asked, and the cycle ends with its reply. -/
  | answered {t u : Turn} {x : Record} {request : Request} {reply : Reply}
      (asked : Asked s v t x request)
      (replied : .act (.reply u.call reply) ∈ ms) (node : u.node = v)
      (ends : u.progress = .ends (settle x reply))
      (after : u.after = u.before.latch v x (settle x reply)) :
      Whole s ms v [t, u]

theorem Whole.mono {ts : List Turn} (h : Whole s ms v ts)
    (hsub : ∀ m ∈ ms, m ∈ ms') : Whole s ms' v ts := by
  cases h with
  | missing node record ends after => exact .missing node record ends after
  | refused node record outcome ends after =>
      exact .refused node record outcome ends after
  | answered asked replied node ends after =>
      exact .answered asked (hsub _ replied) node ends after

/-- The turns of a whole call come to an end. -/
theorem Whole.exists_end {ts : List Turn} (h : Whole s ms v ts) :
    ∃ t ∈ ts, ∃ o, t.progress = .ends o := by
  cases h with
  | @missing t _ _ ends => exact ⟨t, by simp, _, ends⟩
  | @refused t _ _ _ _ _ ends => exact ⟨t, by simp, _, ends⟩
  | @answered t u _ _ _ _ _ _ ends => exact ⟨u, by simp, _, ends⟩

/-- A call that runs its cycle is not dropped. -/
theorem Whole.ne_dropped {ts : List Turn} (h : Whole s ms v ts)
    (ht : t ∈ ts) : t.progress ≠ .ends (.skipped "already running") := by
  cases h with
  | missing _ _ ends =>
      rw [List.mem_singleton.mp ht, ends]
      decide
  | refused _ _ _ ends =>
      rw [List.mem_singleton.mp ht, ends]
      simp
  | @answered t' u x request reply asked _ _ ends =>
      simp only [List.mem_cons, List.not_mem_nil, or_false] at ht
      rcases ht with rfl | rfl
      · rw [asked.asks]
        simp
      · rw [ends]
        obtain ⟨_, heq⟩ | ⟨_, heq, -⟩ := settle_cases x reply <;> simp [heq]

/-- Whether a call was dropped. -/
def Dropped (ts : List Turn) : Prop :=
  ∃ t, ts = [t] ∧ t.progress = .ends (.skipped "already running")

/-! ## The invariant -/

/-- What a log says of the calls that have been made so far. -/
structure Logged (e₀ : Engine) (ms : List Move)
    (made : List (CallId × Handle)) (log : List Turn) (e : Engine) :
    Prop where
  /-- Calls are in line. -/
  lined : e.Lined
  /-- The settings stay. -/
  settings : e.overlap = e₀.overlap ∧ e.surroundings = e₀.surroundings
  /-- Calls are numbered as they are made. -/
  numbered : (made.map Prod.fst).Pairwise (· < ·)
  /-- The next number is new. -/
  counted : ∀ p ∈ made, p.1 < e.nextCall
  /-- A call that has not ended was made, on its node. -/
  calls : ∀ c ∈ e.calls, (c.id, c.node) ∈ made
  /-- So was one that has taken a turn. -/
  turns : ∀ t ∈ log, (t.call, t.node) ∈ made
  /-- A call that waits has taken none. -/
  waiting : ∀ c ∈ e.calls, c.running = none → turnsOf c.id log = []
  /-- A call whose cycle runs has asked a backend. -/
  running : ∀ c ∈ e.calls, ∀ x, c.running = some x →
    ∃ t request, turnsOf c.id log = [t]
      ∧ Asked e₀.surroundings c.node t x request
  /-- A call that has ended was dropped, or has run its cycle. -/
  ended : ∀ id v, (id, v) ∈ made → (∀ c ∈ e.calls, c.id ≠ id) →
    Whole e₀.surroundings ms v (turnsOf id log)
      ∨ (e₀.overlap = .drop ∧ Dropped (turnsOf id log))

theorem turnsOf_append_self (log : List Turn) (hid : t.call = id) :
    turnsOf id (log ++ [t]) = turnsOf id log ++ [t] := by
  simp [turnsOf, hid]

theorem turnsOf_append_of_ne (log : List Turn) (hid : t.call ≠ id) :
    turnsOf id (log ++ [t]) = turnsOf id log := by
  simp [turnsOf, hid]

/-- A call is on one node. -/
theorem Logged.node_unique (h : Logged e₀ ms made log e) {u : Handle}
    (hu : (id, u) ∈ made) (hv : (id, v) ∈ made) : u = v := by
  have hnodup : (made.map Prod.fst).Nodup :=
    h.numbered.imp (fun hlt => Nat.ne_of_lt hlt)
  exact congrArg Prod.snd (eq_of_key hnodup hu hv rfl)

/-- A number that has not been given has no turns. -/
theorem Logged.turnsOf_fresh (h : Logged e₀ ms made log e)
    (hid : e.nextCall ≤ id) : turnsOf id log = [] := by
  refine List.filter_eq_nil_iff.mpr (fun t ht => ?_)
  have hlt := h.counted _ (h.turns t ht)
  simpa using Nat.ne_of_lt (Nat.lt_of_lt_of_le hlt hid)

/-- A call whose cycle runs has asked in some turn. -/
theorem Logged.exists_asked (h : Logged e₀ ms made log e) (hc : c ∈ e.calls)
    (hx : c.running = some x) :
    ∃ t ∈ log, t.call = c.id
      ∧ ∃ request, Asked e₀.surroundings c.node t x request := by
  obtain ⟨t, request, ht, hasked⟩ := h.running c hc x hx
  obtain ⟨hmem, hcall⟩ := List.mem_filter.mp
    (show t ∈ turnsOf c.id log from ht ▸ List.mem_singleton_self t)
  exact ⟨t, hmem, by simpa using hcall, request, hasked⟩

/-- A call that has ended is not left. -/
theorem Logged.gone_of_end (h : Logged e₀ ms made log e) (ht : t ∈ log)
    {o : Outcome} (hend : t.progress = .ends o) :
    ∀ c ∈ e.calls, c.id ≠ t.call := by
  intro c hc hid
  have hmem : t ∈ turnsOf c.id log := List.mem_filter.mpr ⟨ht, by simp [hid]⟩
  cases hx : c.running with
  | none =>
      rw [h.waiting c hc hx] at hmem
      cases hmem
  | some x =>
      obtain ⟨u, request, hu, hasked⟩ := h.running c hc x hx
      rw [hu] at hmem
      rw [List.mem_singleton.mp hmem, hasked.asks] at hend
      cases hend

/-- One more call keeps the numbers in order. -/
theorem Logged.numbered_append (h : Logged e₀ ms made log e) (v : Handle) :
    ((made ++ [(e.nextCall, v)]).map Prod.fst).Pairwise (· < ·) := by
  rw [List.map_append, List.pairwise_append]
  refine ⟨h.numbered, List.pairwise_singleton _ _, fun i hi j hj => ?_⟩
  obtain ⟨q, hq, rfl⟩ := List.mem_map.mp hi
  rw [List.mem_singleton.mp hj]
  exact h.counted q hq

theorem Logged.counted_append (h : Logged e₀ ms made log e) (v : Handle) :
    ∀ p ∈ made ++ [(e.nextCall, v)], p.1 < e.nextCall + 1 := by
  intro q hq
  rcases List.mem_append.mp hq with hq | hq
  · exact Nat.lt_succ_of_lt (h.counted q hq)
  · rw [List.mem_singleton.mp hq]
    exact Nat.lt_succ_self _

/-- A call is made. -/
theorem Logged.arrive (h : Logged e₀ ms made log e) (ha : Arrived e e' c)
    (hsettings : e'.overlap = e.overlap ∧ e'.surroundings = e.surroundings) :
    Logged e₀ ms (made ++ [(c.id, c.node)]) log e' := by
  have hcalls : ∀ d ∈ e'.calls, d ∈ e.calls ∨ d = c := fun d hd => by
    rw [ha.calls] at hd
    simpa using List.mem_append.mp hd
  constructor
  case lined => exact h.lined.arrived ha
  case settings =>
    exact ⟨hsettings.1.trans h.settings.1, hsettings.2.trans h.settings.2⟩
  case numbered =>
    rw [ha.id]
    exact h.numbered_append c.node
  case counted =>
    rw [ha.id, ha.nextCall]
    exact h.counted_append c.node
  case calls =>
    intro d hd
    rcases hcalls d hd with hd | rfl
    · exact List.mem_append_left _ (h.calls d hd)
    · simp
  case turns => exact fun t ht => List.mem_append_left _ (h.turns t ht)
  case waiting =>
    intro d hd hwait
    rcases hcalls d hd with hd | rfl
    · exact h.waiting d hd hwait
    · exact h.turnsOf_fresh (Nat.le_of_eq ha.id.symm)
  case running =>
    intro d hd x hrun
    rcases hcalls d hd with hd | rfl
    · exact h.running d hd x hrun
    · rw [ha.waits] at hrun
      cases hrun
  case ended =>
    intro id v hmem hgone
    rcases List.mem_append.mp hmem with hmem | hmem
    · exact h.ended id v hmem (fun d hd =>
        hgone d (ha.calls ▸ List.mem_append_left _ hd))
    · -- the new call has not ended
      cases List.mem_singleton.mp hmem
      exact absurd rfl (hgone c (by simp [ha.calls]))

/-! ## One turn -/

/-- The turn that a call takes. -/
def turnOf (e : Engine) (c : Call) (p : Progress) (w : Workbench) : Turn :=
  ⟨c.id, c.node, e.bench, p, w⟩

/-- After a turn the other calls are left, and the call itself if it has
    asked a backend. -/
theorem Went.mem_calls {calls : List Call} {w : Workbench}
    (h : Went e c m p calls w) (hids : (e.calls.map Call.id).Nodup)
    (hc : c ∈ e.calls) (hd : d ∈ calls) :
    (d ∈ e.calls ∧ d.id ≠ c.id)
      ∨ ∃ x request, d = { c with running := some x } ∧ c.running = none
          ∧ p = .asks request
          ∧ Asked e.surroundings c.node (e.turnOf c p w) x request := by
  cases h with
  | missing | refused | answers => exact Or.inl (mem_others_iff.mp hd)
  | @asks x request hwait hx ho =>
      rcases mem_begun_iff.mp hd with hd | ⟨b, hb, hid, rfl⟩
      · exact Or.inl hd
      · obtain rfl := eq_of_key hids hb hc hid
        exact Or.inr ⟨x, request, rfl, hwait, rfl, rfl, hx, ho, rfl, rfl⟩

/-- The other calls are left after a turn. -/
theorem Went.mem_of_ne {calls : List Call} {w : Workbench}
    (h : Went e c m p calls w) (hd : d ∈ e.calls) (hne : d.id ≠ c.id) :
    d ∈ calls := by
  cases h with
  | missing | refused | answers => exact mem_others_iff.mpr ⟨hd, hne⟩
  | asks => exact mem_begun_iff.mpr (Or.inl ⟨hd, hne⟩)

/-- A call that is not left after its turn has run its cycle, or has found no
    record. -/
theorem Went.whole {calls : List Call} {w : Workbench}
    (hwent : Went e c m p calls w) (h : Logged e₀ ms made log e)
    (hc : c ∈ e.calls) (hgone : ∀ d ∈ calls, d.id ≠ c.id) :
    Whole e₀.surroundings (ms ++ [m]) c.node
      (turnsOf c.id log ++ [e.turnOf c p w]) := by
  have hsur := h.settings.2
  cases hwent with
  | missing hwait hnone =>
      rw [h.waiting c hc hwait]
      exact .missing rfl hnone rfl rfl
  | refused hwait hx ho =>
      rw [h.waiting c hc hwait]
      rw [hsur] at ho
      exact .refused rfl hx ho rfl rfl
  | @asks x =>
      -- a call that asks a backend is left
      exact absurd rfl (hgone { c with running := some x }
        (mem_begun_iff.mpr (Or.inr ⟨c, hc, rfl, rfl⟩)))
  | answers hx hm =>
      obtain ⟨t, request, ht, hasked⟩ := h.running c hc _ hx
      rw [ht]
      exact .answered hasked (by simp [turnOf, hm]) rfl rfl rfl

/-- A turn of a call is logged for that call. -/
theorem Logged.step (h : Logged e₀ ms made log e) (hc : c ∈ e.calls)
    {w : Workbench} (hwent : Went e c m p e'.calls w) (hlined : e'.Lined)
    (hnext : e'.nextCall = e.nextCall)
    (hsettings : e'.overlap = e.overlap ∧ e'.surroundings = e.surroundings) :
    Logged e₀ (ms ++ [m]) made (log ++ [e.turnOf c p w]) e' := by
  have hids := h.lined.sound.locked.ids
  -- the turn comes last among those of its own call, and no other call has one
  -- more
  have hself : turnsOf c.id (log ++ [e.turnOf c p w])
      = turnsOf c.id log ++ [e.turnOf c p w] := turnsOf_append_self log rfl
  have hother : ∀ {id}, id ≠ c.id →
      turnsOf id (log ++ [e.turnOf c p w]) = turnsOf id log :=
    fun hne => turnsOf_append_of_ne log hne.symm
  constructor
  case lined => exact hlined
  case settings =>
    exact ⟨hsettings.1.trans h.settings.1, hsettings.2.trans h.settings.2⟩
  case numbered => exact h.numbered
  case counted =>
    rw [hnext]
    exact h.counted
  case calls =>
    intro d hd
    -- a call that is there after the turn was there before it
    obtain ⟨hd, -⟩ | ⟨x, request, rfl, -⟩ := hwent.mem_calls hids hc hd
    · exact h.calls d hd
    · exact h.calls c hc
  case turns =>
    intro t ht
    rcases List.mem_append.mp ht with ht | ht
    · exact h.turns t ht
    · rw [List.mem_singleton.mp ht]
      exact h.calls c hc
  case waiting =>
    intro d hd hwait
    obtain ⟨hd, hne⟩ | ⟨x, request, rfl, -⟩ := hwent.mem_calls hids hc hd
    · rw [hother hne]
      exact h.waiting d hd hwait
    · cases hwait
  case running =>
    intro d hd x hrun
    obtain ⟨hd, hne⟩ | ⟨y, request, rfl, hwait, -, hasked⟩ :=
      hwent.mem_calls hids hc hd
    · rw [hother hne]
      exact h.running d hd x hrun
    · -- the call has just begun, so this is its only turn
      cases hrun
      refine ⟨e.turnOf c p w, request, ?_, h.settings.2 ▸ hasked⟩
      show turnsOf c.id _ = _
      rw [hself, h.waiting c hc hwait, List.nil_append]
  case ended =>
    intro id v hmem hgone
    by_cases hid : id = c.id
    · -- a call that has ended is this one, or had ended before
      subst hid
      obtain rfl := h.node_unique hmem (h.calls c hc)
      rw [hself]
      exact Or.inl (hwent.whole h hc hgone)
    · rw [hother hid]
      have hbefore := h.ended id v hmem (fun d hd heq =>
        hgone d (hwent.mem_of_ne hd (heq ▸ hid)) heq)
      exact hbefore.imp_left (fun hw => hw.mono (fun k hk =>
        List.mem_append_left _ hk))

/-! ## Moves -/

/-- A move that makes no call, and in which none gets on. -/
theorem Logged.rest (h : Logged e₀ ms made log e) (hlined : e'.Lined)
    (hcalls : e'.calls = e.calls) (hnext : e'.nextCall = e.nextCall)
    (hsettings : e'.overlap = e.overlap ∧ e'.surroundings = e.surroundings)
    (hsub : ∀ m ∈ ms, m ∈ ms') : Logged e₀ ms' made log e' where
  lined := hlined
  settings :=
    ⟨hsettings.1.trans h.settings.1, hsettings.2.trans h.settings.2⟩
  numbered := h.numbered
  counted := hnext ▸ h.counted
  calls := hcalls ▸ h.calls
  turns := h.turns
  waiting := hcalls ▸ h.waiting
  running := hcalls ▸ h.running
  ended id v hmem hgone :=
    (h.ended id v hmem (hcalls ▸ hgone)).imp_left (fun hw => hw.mono hsub)

/-- A call is made and dropped. -/
theorem Logged.drop (h : Logged e₀ ms made log e) (hlined : e'.Lined)
    (hcalls : e'.calls = e.calls) (hnext : e'.nextCall = e.nextCall + 1)
    (hsettings : e'.overlap = e.overlap ∧ e'.surroundings = e.surroundings)
    (hpolicy : e.overlap = .drop) (hcall : t.call = e.nextCall)
    (hend : t.progress = .ends (.skipped "already running")) :
    Logged e₀ (ms ++ [m]) (made ++ [(e.nextCall, t.node)]) (log ++ [t])
      e' := by
  -- the turn is one of a call that has not been there before
  have hother : ∀ {id}, id < e.nextCall →
      turnsOf id (log ++ [t]) = turnsOf id log := fun hlt =>
    turnsOf_append_of_ne log (hcall ▸ (Nat.ne_of_lt hlt).symm)
  constructor
  case lined => exact hlined
  case settings =>
    exact ⟨hsettings.1.trans h.settings.1, hsettings.2.trans h.settings.2⟩
  case numbered => exact h.numbered_append t.node
  case counted =>
    rw [hnext]
    exact h.counted_append t.node
  case calls =>
    rw [hcalls]
    exact fun d hd => List.mem_append_left _ (h.calls d hd)
  case turns =>
    intro u hu
    rcases List.mem_append.mp hu with hu | hu
    · exact List.mem_append_left _ (h.turns u hu)
    · rw [List.mem_singleton.mp hu, hcall]
      simp
  case waiting =>
    rw [hcalls]
    intro d hd hwait
    rw [hother (h.lined.sound.locked.counted d hd)]
    exact h.waiting d hd hwait
  case running =>
    rw [hcalls]
    intro d hd x hrun
    rw [hother (h.lined.sound.locked.counted d hd)]
    exact h.running d hd x hrun
  case ended =>
    rw [hcalls]
    intro id v hmem hgone
    rcases List.mem_append.mp hmem with hmem | hmem
    · rw [hother (h.counted _ hmem)]
      exact (h.ended id v hmem hgone).imp_left (fun hw =>
        hw.mono (fun k hk => List.mem_append_left _ hk))
    · cases List.mem_singleton.mp hmem
      refine Or.inr ⟨h.settings.1.symm.trans hpolicy, t, ?_, hend⟩
      rw [turnsOf_append_self log hcall, h.turnsOf_fresh (Nat.le_refl _),
        List.nil_append]

/-- A log stays right in a move. -/
theorem Logged.move (h : Logged e₀ ms made log e) (m : Move) :
    Logged e₀ (ms ++ [m]) (made ++ (e.made? m).toList)
      (log ++ (e.turn? m).toList) (e.move m) := by
  have hlined := h.lined.move m
  have hsettings := e.move_settings m
  have hsub : ∀ k ∈ ms, k ∈ ms ++ [m] := fun k hk =>
    List.mem_append_left _ hk
  cases h.lined.moved m with
  -- a turn of a new call is logged once the call itself is
  | rests hmade hturn hcalls hnext =>
      simp only [hmade, hturn, Option.toList_none, List.append_nil]
      exact h.rest hlined hcalls hnext hsettings hsub
  | @waits c hm hturn ha =>
      rw [ha.made? hm, hturn, Option.toList_none, List.append_nil]
      exact (h.arrive ha hsettings).rest hlined rfl rfl ⟨rfl, rfl⟩ hsub
  | @drops v hm hturn hcalls hnext _ _ hpolicy =>
      have hmade : e.made? m = some (e.nextCall, v) := by rw [hm]; rfl
      rw [hmade, hturn]
      exact h.drop (t := ⟨e.nextCall, v, e.bench, _, e.bench⟩) hlined hcalls
        hnext hsettings hpolicy rfl rfl
  | @begins e₁ c p hm ha hold hbench hgoes hturn hnext =>
      rw [ha.made? hm, hturn, ← hbench]
      exact (h.arrive ha hold).step (by simp [ha.calls]) hgoes hlined hnext
        ⟨hsettings.1.trans hold.1.symm, hsettings.2.trans hold.2.symm⟩
  | @goes c p hmade hc hgoes hturn hnext =>
      rw [hmade, hturn, Option.toList_none, List.append_nil]
      exact h.step hc hgoes hlined hnext hsettings

/-- By induction over the moves: a log stays right in a run. -/
theorem Logged.moves (h : Logged e₀ ms made log e) (more : List Move) :
    Logged e₀ (ms ++ more) (made ++ e.made more) (log ++ e.log more)
      (e.moves more) := by
  induction more generalizing ms made log e with
  | nil =>
      simp only [Engine.made, Engine.log, List.append_nil]
      exact h
  | cons m more ih =>
      have hnext := ih (h.move m)
      simp only [List.append_assoc, List.singleton_append] at hnext
      exact hnext

/-! ## Runs in which no call waits -/

/-- Whether the cycle of every call runs that has not ended. -/
def AllRun (e : Engine) : Prop := ∀ c ∈ e.calls, c.running.isSome = true

/-- No call waits after a move unless one is made behind another one. -/
theorem Lined.allRun_move (h : e.Lined) (hall : e.AllRun)
    (hm : ∀ v, m = .act (.start v) → e.overlap = .queue →
      ∀ d ∈ e.calls, d.node ≠ v) : (e.move m).AllRun := by
  intro d hd
  cases h.moved m with
  | rests _ _ hcalls =>
      -- only where calls queue up does one have to wait
      rw [hcalls] at hd
      exact hall d hd
  | waits hstart _ _ hqueue hbehind =>
      obtain ⟨b, hb, hnode⟩ := hbehind
      exact absurd hnode (hm _ hstart hqueue b hb)
  | drops _ _ hcalls =>
      rw [hcalls] at hd
      exact hall d hd
  | @begins e₁ c p _ ha _ _ hgoes =>
      obtain ⟨hd, hid⟩ | ⟨x, request, rfl, -⟩ :=
        -- the call that begins is the new one, and it runs
        hgoes.mem_calls (h.arrived ha).sound.locked.ids (by simp [ha.calls]) hd
      · rw [ha.calls] at hd
        rcases List.mem_append.mp hd with hd | hd
        · exact hall d hd
        · exact absurd (congrArg Call.id (List.mem_singleton.mp hd)) hid
      · rfl
  | @goes c p _ hc hgoes =>
      obtain ⟨hd, -⟩ | ⟨x, request, rfl, -⟩ :=
        hgoes.mem_calls h.sound.locked.ids hc hd
      · exact hall d hd
      · rfl

/-- Under the policy that drops, all calls that there are run a cycle at any
    time. -/
theorem Lined.allRun_moves (h : e.Lined) (hdrop : e.overlap = .drop)
    (hall : e.AllRun) (ms : List Move) : (e.moves ms).AllRun := by
  induction ms generalizing e with
  | nil => exact hall
  | cons m ms ih =>
      refine ih (h.move m) ((e.move_settings m).1.trans hdrop)
        (h.allRun_move hall (fun _ _ hqueue => ?_))
      rw [hdrop] at hqueue
      cases hqueue

/-- Where calls are dropped none waits. -/
theorem Quiet.allRun_moves (h : e.Quiet) (hdrop : e.overlap = .drop)
    (ms : List Move) : (e.moves ms).AllRun :=
  (Lined.of_quiet h).allRun_moves hdrop (by simp [AllRun, h.calls]) ms

/-! ## The log of a run -/

/-- The log of a run says of every call what it has done. -/
theorem logged (hquiet : e₀.Quiet) (ms : List Move) :
    Logged e₀ ms (e₀.made ms) (e₀.log ms) (e₀.moves ms) := by
  have hnothing : Logged e₀ [] [] [] e₀ :=
    { lined := .of_quiet hquiet
      settings := ⟨rfl, rfl⟩
      numbered := List.Pairwise.nil
      counted := nofun
      calls := by simp [hquiet.calls]
      turns := nofun
      waiting := by simp [hquiet.calls]
      running := by simp [hquiet.calls]
      ended := nofun }
  exact hnothing.moves ms

end NodeFlow.Engine
