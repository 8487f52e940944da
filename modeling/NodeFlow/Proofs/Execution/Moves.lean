import NodeFlow.Proofs.Execution.Locks

/-! # Runs and their logs

    Calls take their steps in any order, and in between the workbench may
    change in any way.  `Moved` lists all that a move of such a run can do: a
    call that is made takes its turn at once, is dropped or has to wait, and a
    call that goes on is the first of those on its node (`Lined.moved`).  A
    log says for every turn of a call what it found and what it left. -/

namespace NodeFlow

/-- The workbench once the outputs of a node hold what an outcome says. -/
def Workbench.latch (w : Workbench) (v : Handle) (x : Record) (o : Outcome) :
    Workbench :=
  ⟨(Engine.writeFrom w.graph v 0 (o.latched x.outputs.length)).mark v,
    w.registry⟩

namespace Engine

/-! ## Runs -/

/-- What happens in a run. -/
inductive Move where
  /-- A call is made or takes a step, or a node is selected. -/
  | act (a : Action)
  /-- The workbench changes. -/
  | change (b : Workbench)

/-- The engine after a move. -/
def move (e : Engine) : Move → Engine
  | .act a => e.perform a
  | .change b => { e with bench := b }

/-- The engine after moves. -/
def moves (e : Engine) (ms : List Move) : Engine := ms.foldl move e

/-- A turn of a call. -/
structure Turn where
  /-- The call. -/
  call : CallId
  /-- Its node. -/
  node : Handle
  /-- The workbench that it found. -/
  before : Workbench
  /-- What the call came to. -/
  progress : Progress
  /-- The workbench that it left. -/
  after : Workbench

/-- The turn that a step of a call is, unless the call waits. -/
def note (e : Engine) (id : CallId) (v : Handle) (r : Progress × Engine) :
    Option Turn :=
  match r.1 with
  | .waits => none
  | p => some ⟨id, v, e.bench, p, r.2.bench⟩

/-- The turn that a move is. -/
def turn? (e : Engine) : Move → Option Turn
  | .act (.start v) => e.note e.nextCall v (e.start v).2
  | .act (.resume id) =>
      (e.call? id).bind (fun c => e.note id c.node (e.resume id))
  | .act (.reply id answer) =>
      (e.call? id).bind (fun c => e.note id c.node (e.reply id answer))
  | .act (.select _) => none
  | .change _ => none

/-- The call that a move makes, and its node. -/
def made? (e : Engine) : Move → Option (CallId × Handle)
  | .act (.start v) => some (e.nextCall, v)
  | _ => none

/-- The turns of a run, first things first. -/
def log (e : Engine) : List Move → List Turn
  | [] => []
  | m :: ms => (e.turn? m).toList ++ (e.move m).log ms

/-- The calls made in a run, first things first. -/
def made (e : Engine) : List Move → List (CallId × Handle)
  | [] => []
  | m :: ms => (e.made? m).toList ++ (e.move m).made ms

/-- The turns of one call. -/
def turnsOf (id : CallId) (log : List Turn) : List Turn :=
  log.filter (fun t => t.call == id)

variable {e e' e₁ : Engine} {c d : Call} {m : Move} {p : Progress}
  {v : Handle} {x : Record}

/-- Moves are made one after the other. -/
theorem moves_append (e : Engine) (ms ms' : List Move) :
    e.moves (ms ++ ms') = (e.moves ms).moves ms' :=
  List.foldl_append

/-- The turns of two runs are those of the first and then those of the
    second. -/
theorem log_append (e : Engine) (ms ms' : List Move) :
    e.log (ms ++ ms') = e.log ms ++ (e.moves ms).log ms' := by
  induction ms generalizing e with
  | nil => rfl
  | cons m ms ih =>
      rw [List.cons_append, log, log, ih, List.append_assoc]
      rfl

/-- The calls made in two runs are those of the first and then those of the
    second. -/
theorem made_append (e : Engine) (ms ms' : List Move) :
    e.made (ms ++ ms') = e.made ms ++ (e.moves ms).made ms' := by
  induction ms generalizing e with
  | nil => rfl
  | cons m ms ih =>
      rw [List.cons_append, made, made, ih, List.append_assoc]
      rfl

/-- One move is one turn at most. -/
theorem log_singleton (e : Engine) (m : Move) :
    e.log [m] = (e.turn? m).toList :=
  List.append_nil _

/-- One move makes one call at most. -/
theorem made_singleton (e : Engine) (m : Move) :
    e.made [m] = (e.made? m).toList :=
  List.append_nil _

/-- A step of a call that does not wait is a turn. -/
theorem note_of_ne {id : CallId} {r : Progress × Engine}
    (h : r.1 ≠ .waits) :
    e.note id v r = some ⟨id, v, e.bench, r.1, r.2.bench⟩ := by
  unfold note
  split
  · rename_i hwaits
    exact absurd hwaits h
  · rfl

/-- A call that waits takes no turn. -/
theorem note_waits (e : Engine) (id : CallId) (v : Handle) (e' : Engine) :
    e.note id v (.waits, e') = none := rfl

/-! ## Settings -/

/-- Getting ready leaves the policy as it is. -/
theorem prepare_overlap (e : Engine) (c : Call) (x : Record) :
    (e.prepare c x).2.overlap = e.overlap := by
  unfold prepare
  simp only
  split
  · rfl
  · split <;> rfl

/-- Entering leaves the policy as it is. -/
theorem enter_overlap (e : Engine) (c : Call) :
    (e.enter c).2.overlap = e.overlap := by
  unfold enter
  split
  · split
    · rfl
    · exact e.prepare_overlap c _
  · rfl

/-- The end of a cycle leaves the policy as it is. -/
theorem resolve_overlap (e : Engine) (v : Handle) (x : Record)
    (reply : Reply) : (e.resolve v x reply).2.overlap = e.overlap := by
  unfold resolve
  split
  · rfl
  · simp only
    split <;> rfl

/-- Entering leaves the surroundings as they are. -/
theorem enter_surroundings (e : Engine) (c : Call) :
    (e.enter c).2.surroundings = e.surroundings := by
  unfold enter
  split
  · split
    · rfl
    · rename_i x _
      obtain ⟨e', hsame, -, ⟨outcome, -, heq, -⟩ | ⟨request, -, heq, -⟩⟩ :=
        e.prepare_cases c x <;>
        (rw [heq]; exact hsame.surroundings)
  · rfl

/-- An arrival leaves policy and surroundings as they are. -/
theorem arrive_settings (e : Engine) (v : Handle) :
    (e.arrive v).2.overlap = e.overlap
      ∧ (e.arrive v).2.surroundings = e.surroundings := by
  unfold arrive
  rcases e.lockFor_cases v with ⟨l, -, hlock⟩ | ⟨-, hlock⟩ <;> rw [hlock] <;>
    exact ⟨rfl, rfl⟩

/-- A move leaves the settings alone. -/
theorem move_settings (e : Engine) (m : Move) :
    (e.move m).overlap = e.overlap
      ∧ (e.move m).surroundings = e.surroundings := by
  match m with
  | .act (.start v) =>
      obtain ⟨hoverlap, hsur⟩ := e.arrive_settings v
      show (e.start v).2.2.overlap = _ ∧ (e.start v).2.2.surroundings = _
      unfold start
      simp only
      split
      · -- dropped or waiting behind another call
        exact ⟨hoverlap, hsur⟩
      · exact ⟨(enter_overlap _ _).trans hoverlap,
          (enter_surroundings _ _).trans hsur⟩
  | .act (.resume id) =>
      show (e.resume id).2.overlap = _ ∧ (e.resume id).2.surroundings = _
      unfold resume
      split
      · exact ⟨e.enter_overlap _, e.enter_surroundings _⟩
      · exact ⟨rfl, rfl⟩
  | .act (.reply id answer) =>
      show (e.reply id answer).2.overlap = _
        ∧ (e.reply id answer).2.surroundings = _
      unfold reply
      split
      · exact ⟨e.resolve_overlap _ _ answer,
          (e.resolve_settle _ _ answer).2.1.surroundings⟩
      · exact ⟨rfl, rfl⟩
  | .act (.select v) =>
      show (e.select v).2.overlap = _ ∧ (e.select v).2.surroundings = _
      unfold select
      split <;> exact ⟨rfl, rfl⟩
  | .change b => exact ⟨rfl, rfl⟩

/-! ## Turns -/

/-- What a turn of a call can come to, the calls that are left, and the
    workbench then. -/
inductive Went (e : Engine) (c : Call) (m : Move) :
    Progress → List Call → Workbench → Prop where
  /-- The node has no record. -/
  | missing (hwait : c.running = none)
      (hnone : e.bench.registry.recordOf? c.node = none) :
      Went e c m (.ends (.skipped "no record for node")) (e.release c).calls
        e.bench
  /-- The cycle fails before a backend is asked, whatever backends would
      reply. -/
  | refused {x : Record} {error : String} (hwait : c.running = none)
      (hx : e.bench.registry.recordOf? c.node = some x)
      (ho : ∀ respond, evaluate e.surroundings respond x
        (collectInputs e.bench.graph c.node x) = .failed error) :
      Went e c m (.ends (.failed error)) (e.release c).calls
        (e.bench.latch c.node x (.failed error))
  /-- A backend is asked. -/
  | asks {x : Record} {request : Request} (hwait : c.running = none)
      (hx : e.bench.registry.recordOf? c.node = some x)
      (ho : ∀ respond, evaluate e.surroundings respond x
        (collectInputs e.bench.graph c.node x) = settle x (respond request)) :
      Went e c m (.asks request) (e.begun c x).calls e.bench
  /-- A backend has replied. -/
  | answers {x : Record} {reply : Reply} (hx : c.running = some x)
      (hm : m = .act (.reply c.id reply)) :
      Went e c m (.ends (settle x reply)) (e.release c).calls
        (e.bench.latch c.node x (settle x reply))

/-- A turn is not one of waiting. -/
theorem Went.ne_waits {calls : List Call} {w : Workbench}
    (h : Went e c m p calls w) : p ≠ .waits := by
  cases h <;> simp

/-- A call that is not dropped is not skipped for it. -/
theorem Went.ne_dropped {calls : List Call} {w : Workbench}
    (h : Went e c m p calls w) : p ≠ .ends (.skipped "already running") := by
  cases h with
  | missing => decide
  | refused => simp
  | asks => simp
  | @answers x reply =>
      obtain ⟨_, heq⟩ | ⟨_, heq, -⟩ := settle_cases x reply <;> simp [heq]

/-- Code fails if backends always take too long. -/
theorem evaluate_of_timeout (s : Surroundings) (x : Record)
    (inputs : Table String Json) :
    ∃ error, evaluate s (fun _ => .error (.timeout 0)) x inputs
      = .failed error := by
  unfold evaluate
  split
  · exact ⟨_, rfl⟩
  · split <;> exact ⟨_, rfl⟩

/-- What a call that owns its lock does when it enters is a turn. -/
theorem went_enter (howns : e.ownsLock c = true) (hwait : c.running = none) :
    Went e c m (e.enter c).1 (e.enter c).2.calls (e.enter c).2.bench := by
  unfold enter
  rw [if_pos howns]
  split
  · -- the owner of the lock gets on as far as its record lets it
    rename_i hnone
    exact .missing hwait hnone
  · rename_i x hx
    obtain ⟨e', hsame, -, ⟨outcome, -, heq, hbench, ho⟩ |
        ⟨request, -, heq, hbench, ho⟩⟩ :=
      e.prepare_cases c x
    · -- it fails before a backend is asked, whatever backends would reply
      have hcalls : (e'.release c).calls = (e.release c).calls :=
        congrArg (List.filter (fun d : Call => d.id != c.id)) hsame.calls
      have hlatch : e'.bench = e.bench.latch c.node x outcome := hbench
      obtain ⟨error, hfailed⟩ := evaluate_of_timeout e.surroundings x
        (collectInputs e.bench.graph c.node x)
      obtain rfl : outcome = .failed error := (ho _).symm.trans hfailed
      rw [heq]
      show Went e c m (.ends (.failed error)) (e'.release c).calls e'.bench
      rw [hcalls, hlatch]
      exact .refused hwait hx ho
    · -- it asks a backend and waits for the reply
      have hcalls : (e'.begun c x).calls = (e.begun c x).calls :=
        congrArg (List.map (started c x)) hsame.calls
      rw [heq]
      show Went e c m (.asks request) (e'.begun c x).calls e'.bench
      rw [hcalls, hbench]
      exact .asks hwait hx ho

/-! ## Calls in line -/

/-- What can be relied on in a run: calls are in the order of their numbers,
    besides. -/
structure Lined (e : Engine) : Prop where
  /-- Locks and states. -/
  sound : e.Sound
  /-- A call that was made later has a greater number. -/
  ascending : (e.calls.map Call.id).Pairwise (· < ·)

/-- The first call on a node owns its lock. -/
theorem Lined.owner?_eq_some_iff (h : e.Lined) (hc : c ∈ e.calls) :
    e.owner? c.lock = some c
      ↔ ∀ d ∈ e.calls, d.node = c.node → c.id ≤ d.id := by
  have hlock : ∀ d ∈ e.calls, d.lock = c.lock ↔ d.node = c.node :=
    fun d hd => h.sound.locked.lock_eq_iff hd hc
  have hsorted := List.pairwise_map.mp h.ascending
  unfold owner?
  constructor
  · intro howner d hd hnode
    obtain ⟨-, before, after, heq, hbefore⟩ :=
      List.find?_eq_some_iff_append.mp howner
    have hlockd := (hlock d hd).mpr hnode
    rw [heq] at hd hsorted
    rcases List.mem_append.mp hd with hd | hd
    · simpa [hlockd] using hbefore d hd
    · rcases List.mem_cons.mp hd with rfl | hd
      · exact Nat.le_refl _
      · have hafter := (List.pairwise_append.mp hsorted).2.1
        exact Nat.le_of_lt (List.rel_of_pairwise_cons hafter hd)
  · intro hfirst
    obtain ⟨before, after, heq⟩ := List.append_of_mem hc
    refine List.find?_eq_some_iff_append.mpr
      ⟨by simp, before, after, heq, fun d hd => ?_⟩
    have hmem : d ∈ e.calls := heq ▸ List.mem_append_left _ hd
    rw [heq] at hsorted
    -- an earlier call is on another node, and so has another lock
    have hlt : d.id < c.id :=
      (List.pairwise_append.mp hsorted).2.2 d hd c List.mem_cons_self
    have hne : d.lock ≠ c.lock := fun heq =>
      Nat.not_le.mpr hlt (hfirst d hmem ((hlock d hmem).mp heq))
    simpa using hne

/-- Without calls everything can be relied on. -/
theorem Lined.of_quiet (h : e.Quiet) : e.Lined :=
  ⟨h.sound, by simp [h.calls]⟩

/-- A new call has the greatest number, so calls stay in order. -/
theorem Lined.arrived (h : e.Lined) (ha : Arrived e e' c) : e'.Lined where
  sound := ha.sound h.sound
  ascending := by
    rw [ha.calls, List.map_append, List.pairwise_append]
    refine ⟨h.ascending, List.pairwise_singleton _ _, fun i hi j hj => ?_⟩
    obtain ⟨d, hd, rfl⟩ := List.mem_map.mp hi
    obtain rfl : j = c.id := List.mem_singleton.mp hj
    rw [ha.id]
    exact h.sound.locked.counted d hd

/-- A turn leaves the calls in line. -/
theorem Went.ascending {calls : List Call} {w : Workbench}
    (h : Went e c m p calls w)
    (hsorted : (e.calls.map Call.id).Pairwise (· < ·)) :
    (calls.map Call.id).Pairwise (· < ·) := by
  have hrelease : ((e.release c).calls.map Call.id).Pairwise (· < ·) :=
    hsorted.sublist (List.filter_sublist.map _)
  cases h with
  | missing | refused | answers => exact hrelease
  | @asks x =>
      show ((e.calls.map (started c x)).map Call.id).Pairwise (· < ·)
      rw [List.map_map, show Call.id ∘ started c x = Call.id from
        funext (started_id c x)]
      exact hsorted

/-! ## Moves -/

/-- All that a move can do. -/
inductive Moved (e : Engine) (m : Move) : Prop where
  /-- No call is made, and none gets on. -/
  | rests (hmade : e.made? m = none) (hturn : e.turn? m = none)
      (hcalls : (e.move m).calls = e.calls)
      (hnext : (e.move m).nextCall = e.nextCall)
      (hbench : (∀ b, m ≠ .change b) → (e.move m).bench = e.bench)
  /-- A call is made and has to wait. -/
  | waits {c : Call} (hm : m = .act (.start c.node))
      (hturn : e.turn? m = none) (ha : Arrived e (e.move m) c)
      (hoverlap : e.overlap = .queue)
      (hbehind : ∃ d ∈ e.calls, d.node = c.node)
  /-- A call is made and dropped. -/
  | drops {v : Handle} (hm : m = .act (.start v))
      (hturn : e.turn? m = some
        ⟨e.nextCall, v, e.bench, .ends (.skipped "already running"), e.bench⟩)
      (hcalls : (e.move m).calls = e.calls)
      (hnext : (e.move m).nextCall = e.nextCall + 1)
      (hbench : (e.move m).bench = e.bench)
      (hstates : (e.move m).states = e.states)
      (hoverlap : e.overlap = .drop)
      (hbehind : ∃ d ∈ e.calls, d.node = v)
  /-- A call is made and takes its first turn. -/
  | begins {e₁ : Engine} {c : Call} {p : Progress}
      (hm : m = .act (.start c.node)) (ha : Arrived e e₁ c)
      (hsettings : e₁.overlap = e.overlap
        ∧ e₁.surroundings = e.surroundings) (hbench : e₁.bench = e.bench)
      (hgoes : Went e₁ c m p (e.move m).calls (e.move m).bench)
      (hturn : e.turn? m = some
        ⟨c.id, c.node, e.bench, p, (e.move m).bench⟩)
      (hnext : (e.move m).nextCall = e₁.nextCall)
      (hfree : ∀ d ∈ e.calls, d.node ≠ c.node)
  /-- A call takes another turn, or its first one after it has waited. -/
  | goes {c : Call} {p : Progress} (hmade : e.made? m = none)
      (hc : c ∈ e.calls)
      (hgoes : Went e c m p (e.move m).calls (e.move m).bench)
      (hturn : e.turn? m = some
        ⟨c.id, c.node, e.bench, p, (e.move m).bench⟩)
      (hnext : (e.move m).nextCall = e.nextCall)
      (hfirst : ∀ d ∈ e.calls, d.node = c.node → c.id ≤ d.id)

/-- The move that makes a call is one that starts it. -/
theorem Arrived.made? (ha : Arrived e e' c)
    (hm : m = .act (.start c.node)) :
    e.made? m = some (c.id, c.node) := by
  rw [hm, ha.id]
  rfl

/-- A new call owns its lock if it is alone on its node. -/
theorem Lined.ownsLock_arrived_iff (h : e.Lined) (ha : Arrived e e' c) :
    e'.ownsLock c = true ↔ ∀ d ∈ e.calls, d.node ≠ c.node := by
  have hlined := h.arrived ha
  have hc : c ∈ e'.calls := by simp [ha.calls]
  rw [ownsLock_iff hlined.sound.locked hc, hlined.owner?_eq_some_iff hc]
  constructor
  · intro hfirst d hd hnode
    have hle := hfirst d (ha.calls ▸ List.mem_append_left _ hd) hnode
    rw [ha.id] at hle
    exact Nat.not_le.mpr (h.sound.locked.counted d hd) hle
  · intro hfree d hd hnode
    rw [ha.calls] at hd
    rcases List.mem_append.mp hd with hd | hd
    · exact absurd hnode (hfree d hd)
    · obtain rfl := List.mem_singleton.mp hd
      exact Nat.le_refl _

/-- Entering makes no call. -/
theorem enter_nextCall (e : Engine) (c : Call) :
    (e.enter c).2.nextCall = e.nextCall := by
  unfold enter
  split
  · split
    · rfl
    · rename_i x _
      obtain ⟨e', hsame, -, ⟨outcome, -, heq, -⟩ | ⟨request, -, heq, -⟩⟩ :=
        e.prepare_cases c x <;>
        (rw [heq]; exact hsame.nextCall)
  · rfl

/-- A reply makes no call. -/
theorem reply_nextCall (e : Engine) (id : CallId) (answer : Reply) :
    (e.reply id answer).2.nextCall = e.nextCall := by
  unfold reply
  split
  · exact (e.resolve_settle _ _ answer).2.1.nextCall
  · rfl

/-- A call that is alone on its node does not wait. -/
theorem start_alone (h : e.Lined) (hfree : ∀ d ∈ e.calls, d.node ≠ v) :
    (e.start v).2 = (e.arrive v).2.enter (e.arrive v).1
      ∧ (e.arrive v).2.ownsLock (e.arrive v).1 = true := by
  have howns := (h.ownsLock_arrived_iff
    (arrived_arrive h.sound.locked v)).mpr hfree
  refine ⟨?_, howns⟩
  unfold start
  simp only
  rw [if_neg (fun hskip => hskip.2 howns)]

/-- A call that is not alone on its node is dropped or waits. -/
theorem start_behind (h : e.Lined) (hbehind : ∃ d ∈ e.calls, d.node = v) :
    (e.start v).2
      = match e.overlap with
        | .drop => close (e.arrive v).1
            ((e.arrive v).2.skip v "already running")
        | .queue => (.waits, (e.arrive v).2) := by
  obtain ⟨d, hd, hnode⟩ := hbehind
  have hnot : ¬ (e.arrive v).2.ownsLock (e.arrive v).1 = true := by
    rw [h.ownsLock_arrived_iff (arrived_arrive h.sound.locked v)]
    exact fun hfree => hfree d hd hnode
  obtain ⟨hoverlap, -⟩ := e.arrive_settings v
  unfold start
  simp only
  cases hpolicy : e.overlap with
  | drop => rw [if_pos ⟨hoverlap.trans hpolicy, hnot⟩]
  | queue => rw [if_neg (by simp [hoverlap, hpolicy]), enter, if_neg hnot]

/-- A call that waits gets on if it is the first on its node. -/
theorem resume_first (h : e.Lined) (hc : c ∈ e.calls)
    (hwait : c.running = none)
    (hfirst : ∀ d ∈ e.calls, d.node = c.node → c.id ≤ d.id) :
    e.resume c.id = e.enter c ∧ e.ownsLock c = true := by
  have hcall := h.sound.locked.call?_eq_some_iff.mpr ⟨hc, rfl⟩
  refine ⟨?_, (ownsLock_iff h.sound.locked hc).mpr
    ((h.owner?_eq_some_iff hc).mpr hfirst)⟩
  obtain ⟨id, v, lock, running⟩ := c
  subst hwait
  rw [resume, hcall]

/-- A call that is not the first on its node goes on waiting. -/
theorem resume_behind (h : e.Lined) (hc : c ∈ e.calls)
    (hbehind : c.running = none →
      ¬ ∀ d ∈ e.calls, d.node = c.node → c.id ≤ d.id) :
    e.resume c.id = (.waits, e) := by
  have hcall := h.sound.locked.call?_eq_some_iff.mpr ⟨hc, rfl⟩
  have hnot : c.running = none → ¬ e.ownsLock c = true := fun hwait => by
    rw [ownsLock_iff h.sound.locked hc, h.owner?_eq_some_iff hc]
    exact hbehind hwait
  obtain ⟨id, v, lock, running⟩ := c
  rw [resume, hcall]
  cases running with
  | none =>
      show e.enter ⟨id, v, lock, none⟩ = _
      rw [enter, if_neg (hnot rfl)]
  | some x => rfl

/-- A reply ends a call that runs its cycle. -/
theorem reply_running (h : e.Lined) (hc : c ∈ e.calls)
    (hx : c.running = some x) (answer : Reply) :
    e.reply c.id answer
      = close c ((e.resolve c.node x answer).1,
          (e.resolve c.node x answer).2.setState c.node .idle) := by
  have hcall := h.sound.locked.call?_eq_some_iff.mpr ⟨hc, rfl⟩
  obtain ⟨id, v, lock, running⟩ := c
  subst hx
  rw [reply, hcall]

/-- The call is not left then. -/
theorem reply_calls (h : e.Lined) (hc : c ∈ e.calls)
    (hx : c.running = some x) (answer : Reply) :
    (e.reply c.id answer).2.calls = (e.release c).calls := by
  obtain ⟨-, hsame, -⟩ := e.resolve_settle c.node x answer
  rw [reply_running h hc hx]
  exact congrArg (List.filter (fun d : Call => d.id != c.id)) hsame.calls

/-- What a reply does to the call that gets it is a turn. -/
theorem went_reply (h : e.Lined) (hc : c ∈ e.calls) (hx : c.running = some x)
    (answer : Reply) :
    Went e c (.act (.reply c.id answer)) (e.reply c.id answer).1
      (e.reply c.id answer).2.calls (e.reply c.id answer).2.bench := by
  obtain ⟨houtcome, -, -, hbench⟩ := e.resolve_settle c.node x answer
  have hlatch : (e.resolve c.node x answer).2.bench
      = e.bench.latch c.node x (settle x answer) := hbench
  rw [reply_calls h hc hx, reply_running h hc hx]
  show Went e c _ (.ends (e.resolve c.node x answer).1) (e.release c).calls
    (e.resolve c.node x answer).2.bench
  rw [houtcome, hlatch]
  exact .answers hx rfl

/-- A reply is nothing to a call that waits. -/
theorem reply_waiting (h : e.Lined) (hc : c ∈ e.calls)
    (hwait : c.running = none) (answer : Reply) :
    e.reply c.id answer = (.waits, e) := by
  have hcall := h.sound.locked.call?_eq_some_iff.mpr ⟨hc, rfl⟩
  obtain ⟨id, v, lock, running⟩ := c
  subst hwait
  rw [reply, hcall]

/-- A call that starts runs, waits behind another one, or is dropped. -/
theorem moved_start (h : e.Lined) (v : Handle) :
    Moved e (.act (.start v)) := by
  have ha := arrived_arrive h.sound.locked v
  have hid : (e.arrive v).1.id = e.nextCall := ha.id
  by_cases hfree : ∀ d ∈ e.calls, d.node ≠ v
  · obtain ⟨hstart, howns⟩ := start_alone h hfree
    have hmove : e.move (.act (.start v))
        = ((e.arrive v).2.enter (e.arrive v).1).2 := congrArg Prod.snd hstart
    have hwent := went_enter (m := .act (.start v)) howns ha.waits
    refine .begins (p := ((e.arrive v).2.enter (e.arrive v).1).1) rfl ha
      (e.arrive_settings v) (e.arrive_bench v) ?_ ?_ ?_ hfree
    · rw [hmove]
      exact hwent
    · rw [hmove, hid]
      show e.note e.nextCall v (e.start v).2 = _
      rw [hstart, note_of_ne hwent.ne_waits]
      rfl
    · rw [hmove, enter_nextCall]
  · have hbehind : ∃ d ∈ e.calls, d.node = v := by
      apply Classical.byContradiction
      exact fun hnone => hfree (fun d hd hnode => hnone ⟨d, hd, hnode⟩)
    have hstart := start_behind h hbehind
    cases hpolicy : e.overlap with
    | drop =>
        rw [hpolicy] at hstart
        have hmove : e.move (.act (.start v))
            = (close (e.arrive v).1
                ((e.arrive v).2.skip v "already running")).2 :=
          congrArg Prod.snd hstart
        refine .drops rfl ?_ ?_ ?_ ?_ ?_ hpolicy hbehind
        · show e.note e.nextCall v (e.start v).2 = _
          rw [hstart, note_of_ne (by simp [close])]
          simp only [close, skip, Option.some.injEq, Turn.mk.injEq, true_and]
          exact e.arrive_bench v
        · rw [hmove]
          show ((e.arrive v).2.calls).filter
            (fun d => d.id != (e.arrive v).1.id) = e.calls
          -- only the new call is taken off the list
          rw [ha.calls, List.filter_append, ha.id]
          have hold : e.calls.filter (fun d => d.id != e.nextCall)
              = e.calls := by
            refine List.filter_eq_self.mpr (fun d hd => ?_)
            simpa using Nat.ne_of_lt (h.sound.locked.counted d hd)
          simp [hold, ha.id]
        · rw [hmove]
          exact ha.nextCall
        · rw [hmove]
          exact e.arrive_bench v
        · rw [hmove]
          show (e.arrive v).2.states = e.states
          unfold arrive
          rcases e.lockFor_cases v with ⟨l, -, hlock⟩ | ⟨-, hlock⟩ <;>
            rw [hlock]
    | queue =>
        rw [hpolicy] at hstart
        have hmove : e.move (.act (.start v)) = (e.arrive v).2 :=
          congrArg Prod.snd hstart
        refine .waits (c := (e.arrive v).1) rfl ?_ (hmove ▸ ha) hpolicy hbehind
        show e.note e.nextCall v (e.start v).2 = none
        rw [hstart, note_waits]

/-- A step that leaves an engine as it is. -/
theorem moved_of_waits {a : Action} {id : CallId} {r : Progress × Engine}
    (hmade : e.made? (.act a) = none) (hmove : e.perform a = r.2)
    (hturn : e.turn? (.act a) = (e.call? id).bind
      (fun c => e.note id c.node r)) (hr : r = (.waits, e)) :
    Moved e (.act a) := by
  subst hr
  have hsame : e.move (.act a) = e := hmove
  refine .rests hmade ?_ (by rw [hsame]) (by rw [hsame])
    (fun _ => by rw [hsame])
  rw [hturn]
  cases e.call? id <;> rfl

/-- A call that goes on takes a turn if it owns its lock, and rests if not. -/
theorem moved_resume (h : e.Lined) (id : CallId) :
    Moved e (.act (.resume id)) := by
  cases hcall : e.call? id with
  | none => exact moved_of_waits rfl rfl rfl (by rw [resume, hcall])
  | some c =>
      obtain ⟨hc, rfl⟩ := h.sound.locked.call?_eq_some_iff.mp hcall
      by_cases hnext : c.running = none
          ∧ ∀ d ∈ e.calls, d.node = c.node → c.id ≤ d.id
      · obtain ⟨hwait, hfirst⟩ := hnext
        obtain ⟨hresume, howns⟩ := resume_first h hc hwait hfirst
        have hmove : e.move (.act (.resume c.id)) = (e.enter c).2 :=
          congrArg Prod.snd hresume
        have hwent := went_enter (m := .act (.resume c.id)) howns hwait
        refine .goes (p := (e.enter c).1) rfl hc (hmove ▸ hwent) ?_ ?_ hfirst
        · rw [hmove]
          show (e.call? c.id).bind (fun c => e.note _ c.node _) = _
          rw [hcall, Option.bind_some, hresume, note_of_ne hwent.ne_waits]
        · rw [hmove, enter_nextCall]
      · exact moved_of_waits rfl rfl rfl
          (resume_behind h hc (fun hwait hfirst => hnext ⟨hwait, hfirst⟩))

/-- A reply is a turn of the call that it is for, if there is one that waits
    for it. -/
theorem moved_reply (h : e.Lined) (id : CallId) (answer : Reply) :
    Moved e (.act (.reply id answer)) := by
  cases hcall : e.call? id with
  | none => exact moved_of_waits rfl rfl rfl (by rw [reply, hcall])
  | some c =>
      obtain ⟨hc, rfl⟩ := h.sound.locked.call?_eq_some_iff.mp hcall
      cases hx : c.running with
      | none =>
          exact moved_of_waits rfl rfl rfl (reply_waiting h hc hx answer)
      | some x =>
          have hwent := went_reply h hc hx answer
          have howner := h.sound.locked.owner c hc (by rw [hx]; rfl)
          refine .goes rfl hc hwent ?_ (e.reply_nextCall c.id answer)
            ((h.owner?_eq_some_iff hc).mp howner)
          show (e.call? c.id).bind (fun c => e.note _ c.node _) = _
          rw [hcall, Option.bind_some, note_of_ne hwent.ne_waits]
          rfl

/-- Every move does one of these. -/
theorem Lined.moved (h : e.Lined) (m : Move) : Moved e m := by
  match m with
  | .act (.start v) => exact moved_start h v
  | .act (.resume id) => exact moved_resume h id
  | .act (.reply id answer) => exact moved_reply h id answer
  | .act (.select v) =>
      have hsame : (e.select v).2.calls = e.calls
          ∧ (e.select v).2.nextCall = e.nextCall
          ∧ (e.select v).2.bench = e.bench := by
        unfold select
        split <;> exact ⟨rfl, rfl, rfl⟩
      exact .rests rfl rfl hsame.1 hsame.2.1 (fun _ => hsame.2.2)
  | .change b => exact .rests rfl rfl rfl rfl (fun hno => absurd rfl (hno b))

/-- Locks and states stay sound in a move. -/
theorem Sound.move (h : e.Sound) (m : Move) : (e.move m).Sound := by
  cases m with
  | act a => exact h.perform a
  | change b => exact ⟨h.locked.congr ⟨rfl, rfl, rfl, rfl, rfl⟩, h.states⟩

/-- What can be relied on before a move can be relied on after it. -/
theorem Lined.move (h : e.Lined) (m : Move) : (e.move m).Lined where
  sound := h.sound.move m
  ascending := by
    cases h.moved m with
    | rests _ _ hcalls => rw [hcalls]; exact h.ascending
    | waits _ _ ha => exact (h.arrived ha).ascending
    | drops _ _ hcalls => rw [hcalls]; exact h.ascending
    | begins _ ha _ _ hgoes => exact hgoes.ascending (h.arrived ha).ascending
    | goes _ _ hgoes => exact hgoes.ascending h.ascending

end Engine
end NodeFlow
