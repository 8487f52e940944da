import NodeFlow.Proofs.Execution.Cycle
import NodeFlow.Proofs.Lists

/-! # Locks and calls

    Calls take their steps in any order.  All calls on a node share the lock
    that the table keeps for it, the table keeps a lock exactly as long as
    there are calls, and a call whose cycle has started owns its lock.  So at
    most one cycle runs for a node at a time, and its state tells whether one
    does. -/

namespace NodeFlow.Engine

variable {e e' : Engine} {c d : Call} {v u : Handle}

/-- What can be relied on of calls and their locks. -/
structure Locked (e : Engine) : Prop where
  /-- No two calls have one number. -/
  ids : (e.calls.map Call.id).Nodup
  /-- The next number is new. -/
  counted : ∀ c ∈ e.calls, c.id < e.nextCall
  /-- A call holds on to the lock of its node. -/
  shared : ∀ c ∈ e.calls, e.locks.get? c.node = some c.lock
  /-- A lock is kept for calls only. -/
  held : ∀ v l, e.locks.get? v = some l → ∃ c ∈ e.calls, c.node = v
  /-- The next lock is new. -/
  numbered : ∀ v l, e.locks.get? v = some l → l < e.nextLock
  /-- No two nodes have one lock. -/
  apart : ∀ u v l, e.locks.get? u = some l → e.locks.get? v = some l → u = v
  /-- A call whose cycle has started owns its lock. -/
  owner : ∀ c ∈ e.calls, c.running.isSome = true → e.owner? c.lock = some c

/-- Whether a cycle runs for a node. -/
def Busy (e : Engine) (v : Handle) : Prop :=
  ∃ c ∈ e.calls, c.node = v ∧ c.running.isSome = true

/-- What can be relied on between any two steps. -/
structure Sound (e : Engine) : Prop where
  /-- Calls and locks. -/
  locked : e.Locked
  /-- The state of a node tells whether a cycle runs for it. -/
  states : ∀ v, e.state v ≠ .idle ↔ e.Busy v

/-! ## Consequences -/

/-- Calls on one node have one lock, and calls with one lock one node. -/
theorem Locked.lock_eq_iff (h : e.Locked) (hc : c ∈ e.calls)
    (hd : d ∈ e.calls) : c.lock = d.lock ↔ c.node = d.node := by
  have hlc := h.shared c hc
  have hld := h.shared d hd
  constructor
  · intro heq
    rw [heq] at hlc
    exact h.apart _ _ _ hlc hld
  · intro heq
    rw [heq, hld] at hlc
    exact (Option.some.inj hlc).symm

/-- Only one cycle runs for a node. -/
theorem Locked.eq_of_running (h : e.Locked) (hc : c ∈ e.calls)
    (hd : d ∈ e.calls) (hnode : c.node = d.node)
    (hrc : c.running.isSome = true) (hrd : d.running.isSome = true) :
    c = d := by
  have hoc := h.owner c hc hrc
  rw [(h.lock_eq_iff hc hd).mpr hnode, h.owner d hd hrd] at hoc
  exact (Option.some.inj hoc).symm

/-- A call is found under its number. -/
theorem Locked.call?_eq_some_iff (h : e.Locked) {id : CallId} :
    e.call? id = some c ↔ c ∈ e.calls ∧ c.id = id := by
  unfold call?
  constructor
  · intro hc
    exact ⟨List.mem_of_find?_eq_some hc,
      by simpa using List.find?_some hc⟩
  · rintro ⟨hc, rfl⟩
    cases hf : e.calls.find? (fun d => d.id == c.id) with
    | none =>
        have hnone := List.find?_eq_none.mp hf c hc
        simp at hnone
    | some d =>
        have hid : d.id = c.id := by simpa using List.find?_some hf
        rw [eq_of_key h.ids (List.mem_of_find?_eq_some hf) hc hid]

/-- A call owns its lock exactly if it is the owner of it. -/
theorem ownsLock_iff (h : e.Locked) (hc : c ∈ e.calls) :
    e.ownsLock c = true ↔ e.owner? c.lock = some c := by
  unfold ownsLock
  rw [beq_iff_eq, Option.map_eq_some_iff]
  constructor
  · rintro ⟨d, hd, hid⟩
    rw [hd, eq_of_key h.ids (List.mem_of_find?_eq_some hd) hc hid]
  · intro ho
    exact ⟨c, ho, rfl⟩

/-! ## What calls and locks do not depend on -/

/-- What can be relied on of locks depends on calls, locks and counts only. -/
theorem Locked.congr (h : e.Locked) (hs : e.SameCalls e') : e'.Locked where
  ids := hs.calls ▸ h.ids
  counted := by
    rw [hs.calls, hs.nextCall]
    exact h.counted
  shared := by
    rw [hs.calls, hs.locks]
    exact h.shared
  held := by
    rw [hs.calls, hs.locks]
    exact h.held
  numbered := by
    rw [hs.locks, hs.nextLock]
    exact h.numbered
  apart := hs.locks ▸ h.apart
  owner := by
    unfold owner?
    rw [hs.calls]
    exact h.owner

/-! ## A call ends -/

/-- The calls but for one. -/
theorem mem_others_iff :
    d ∈ (e.release c).calls ↔ d ∈ e.calls ∧ d.id ≠ c.id := by
  simp [release]

/-- A lock goes off the table with the last call on its node. -/
theorem Locked.references_eq_two_iff (h : e.Locked) (hc : c ∈ e.calls) :
    e.references c.lock = 2 ↔
      ∀ d ∈ e.calls, d.node = c.node → d.id = c.id := by
  have hlock := h.shared c hc
  -- one reference is the table's, the others are those of the calls
  have hvalues : e.locks.values.count c.lock = 1 :=
    Table.count_values_eq_one hlock (fun v hv => h.apart _ _ _ hv hlock)
  have hcalls : (e.calls.map Call.lock).count c.lock
      = ((e.calls.filter (fun d => d.id != c.id)).map Call.lock).count c.lock
        + 1 := by
    rw [((perm_cons_filter h.ids hc).map Call.lock).count_eq, List.map_cons,
      List.count_cons_self]
  unfold references
  rw [hvalues, hcalls]
  -- so two of them are left exactly when no other call has the lock
  have hzero : ((e.calls.filter (fun d => d.id != c.id)).map
      Call.lock).count c.lock = 0 ↔
        ∀ d ∈ e.calls, d.node = c.node → d.id = c.id := by
    rw [List.count_eq_zero, List.mem_map]
    constructor
    · intro hnone d hd hnode
      by_cases hid : d.id = c.id
      · exact hid
      · exact absurd ⟨d, List.mem_filter.mpr ⟨hd, by simpa using hid⟩,
          (h.lock_eq_iff hd hc).mpr hnode⟩ hnone
    · rintro hall ⟨d, hd, hlockd⟩
      obtain ⟨hd, hid⟩ := List.mem_filter.mp hd
      have hnode := (h.lock_eq_iff hd hc).mp hlockd
      simp [hall d hd hnode] at hid
  rw [← hzero]
  omega

/-- When a call ends, the lock of its node goes with it if it was the last one
    there. -/
theorem get?_release_locks (h : e.Locked) (hc : c ∈ e.calls) (v : Handle) :
    (e.release c).locks.get? v
      = if v = c.node ∧ ∀ d ∈ e.calls, d.node = c.node → d.id = c.id then none
        else e.locks.get? v := by
  have hiff := h.references_eq_two_iff hc
  show (if e.locks.get? c.node = some c.lock ∧ e.references c.lock = 2 then
    e.locks.erase c.node else e.locks).get? v = _
  by_cases hlast : ∀ d ∈ e.calls, d.node = c.node → d.id = c.id
  · rw [if_pos ⟨h.shared c hc, hiff.mpr hlast⟩, Table.get?_erase]
    by_cases hv : v = c.node
    · rw [if_pos hv, if_pos ⟨hv, hlast⟩]
    · rw [if_neg hv, if_neg (fun hboth => hv hboth.1)]
  · rw [if_neg (fun hboth => hlast (hiff.mp hboth.2)),
      if_neg (fun hboth => hlast hboth.2)]

/-- When a call ends, what can be relied on of the others stays. -/
theorem Locked.release (h : e.Locked) (hc : c ∈ e.calls) :
    (e.release c).Locked where
  -- the calls that are left are some of those before
  ids := h.ids.sublist (List.filter_sublist.map _)
  counted d hd := h.counted d (mem_others_iff.mp hd).1
  shared d hd := by
    obtain ⟨hd, hid⟩ := mem_others_iff.mp hd
    rw [get?_release_locks h hc, if_neg (fun hlast =>
      hid (hlast.2 d hd hlast.1))]
    exact h.shared d hd
  held v l hl := by
    rw [get?_release_locks h hc] at hl
    split at hl
    · cases hl
    · rename_i hmore
      obtain ⟨d, hd, hnode⟩ := h.held v l hl
      by_cases hv : v = c.node
      · -- somebody else is left on the node
        have hsome : ∃ b ∈ e.calls, b.node = c.node ∧ b.id ≠ c.id := by
          apply Classical.byContradiction
          intro hnone
          refine hmore ⟨hv, fun b hb hbn => ?_⟩
          apply Classical.byContradiction
          exact fun hne => hnone ⟨b, hb, hbn, hne⟩
        obtain ⟨b, hb, hbn, hbid⟩ := hsome
        exact ⟨b, mem_others_iff.mpr ⟨hb, hbid⟩, hbn.trans hv.symm⟩
      · -- the call that ends is not on this node
        refine ⟨d, mem_others_iff.mpr ⟨hd, fun hid => hv ?_⟩, hnode⟩
        rw [← hnode, eq_of_key h.ids hd hc hid]
  numbered v l hl := by
    rw [get?_release_locks h hc] at hl
    split at hl
    · cases hl
    · exact h.numbered v l hl
  apart u v l hu hv := by
    rw [get?_release_locks h hc] at hu hv
    split at hu
    · cases hu
    · split at hv
      · cases hv
      · exact h.apart u v l hu hv
  owner d hd hrun := by
    obtain ⟨hd, hid⟩ := mem_others_iff.mp hd
    exact find?_filter_of_find? (h.owner d hd hrun) (by simpa using hid)

/-- A call may end once its node is idle. -/
theorem Sound.close (h : e.Locked) (hc : c ∈ e.calls)
    (hstates : ∀ v, e.state v ≠ .idle ↔
      ∃ d ∈ e.calls, d.id ≠ c.id ∧ d.node = v ∧ d.running.isSome = true)
    (outcome : Outcome) : (Engine.close c (outcome, e)).2.Sound where
  locked := h.release hc
  states v := by
    show e.state v ≠ .idle ↔ (e.release c).Busy v
    rw [hstates]
    constructor
    · rintro ⟨d, hd, hid, hnode, hrun⟩
      exact ⟨d, mem_others_iff.mpr ⟨hd, hid⟩, hnode, hrun⟩
    · rintro ⟨d, hd, hnode, hrun⟩
      obtain ⟨hd, hid⟩ := mem_others_iff.mp hd
      exact ⟨d, hd, hid, hnode, hrun⟩

/-- A call that has not started its cycle may end at any time. -/
theorem Sound.close_waiting (h : e.Sound) (hc : c ∈ e.calls)
    (hwait : c.running = none) {e' : Engine} (hsame : e.SameCalls e')
    (hstates : ∀ v, e'.state v = e.state v) (outcome : Outcome) :
    (Engine.close c (outcome, e')).2.Sound := by
  refine .close (h.locked.congr hsame) (hsame.calls ▸ hc) (fun v => ?_) outcome
  rw [hstates, h.states, hsame.calls]
  constructor
  · -- the call that ends is not the one that keeps a node busy
    rintro ⟨d, hd, hnode, hrun⟩
    refine ⟨d, hd, fun hid => ?_, hnode, hrun⟩
    rw [eq_of_key h.locked.ids hd hc hid, hwait] at hrun
    cases hrun
  · rintro ⟨d, hd, -, hnode, hrun⟩
    exact ⟨d, hd, hnode, hrun⟩

/-! ## A cycle starts -/

/-- When a call begins, it is in place of the one that waited. -/
theorem mem_begun_iff {r : Record} :
    d ∈ (e.begun c r).calls ↔
      (d ∈ e.calls ∧ d.id ≠ c.id)
        ∨ ∃ b ∈ e.calls, b.id = c.id ∧ d = { b with running := some r } := by
  show d ∈ e.calls.map (started c r) ↔ _
  rw [List.mem_map]
  constructor
  · rintro ⟨b, hb, rfl⟩
    by_cases hid : b.id = c.id
    · exact Or.inr ⟨b, hb, hid, if_pos hid⟩
    · rw [started, if_neg hid]
      exact Or.inl ⟨hb, hid⟩
  · rintro (⟨hd, hid⟩ | ⟨b, hb, hid, rfl⟩)
    · exact ⟨d, hd, if_neg hid⟩
    · exact ⟨b, hb, if_pos hid⟩

/-- The cycle of the owner of a lock may start. -/
theorem Locked.begun (h : e.Locked) (hc : c ∈ e.calls)
    (howner : e.owner? c.lock = some c) (r : Record) :
    (e.begun c r).Locked := by
  -- starting a cycle moves no call in the queue of its lock
  have hfind : ∀ l, (e.begun c r).owner? l
      = (e.owner? l).map (started c r) := by
    intro l
    have hlock : (fun d : Call => d.lock == l) ∘ started c r
        = fun d => d.lock == l := by
      funext d
      simp
    show (e.calls.map (started c r)).find? (fun d => d.lock == l) = _
    rw [List.find?_map, hlock]
    rfl
  constructor
  · show ((e.calls.map (started c r)).map Call.id).Nodup
    rw [List.map_map, show Call.id ∘ started c r = Call.id from
      funext (started_id c r)]
    exact h.ids
  · intro d hd
    obtain ⟨b, hb, rfl⟩ := List.mem_map.mp hd
    rw [started_id]
    exact h.counted b hb
  · intro d hd
    obtain ⟨b, hb, rfl⟩ := List.mem_map.mp hd
    rw [started_node, started_lock]
    exact h.shared b hb
  · intro v l hl
    obtain ⟨b, hb, hnode⟩ := h.held v l hl
    exact ⟨started c r b, List.mem_map.mpr ⟨b, hb, rfl⟩,
      (started_node c r b).trans hnode⟩
  · exact h.numbered
  · exact h.apart
  · intro d hd hrun
    rw [hfind]
    rcases mem_begun_iff.mp hd with ⟨hd, hid⟩ | ⟨b, hb, hid, rfl⟩
    · rw [h.owner d hd hrun, Option.map_some, started, if_neg hid]
    · have hbc := eq_of_key h.ids hb hc hid
      subst hbc
      show (e.owner? b.lock).map (started b r) = _
      rw [howner, Option.map_some, started, if_pos rfl]

/-- Whether no cycle runs for a node. -/
def Free (e : Engine) (v : Handle) : Prop :=
  ∀ d ∈ e.calls, d.node = v → d.running = none

/-- No cycle runs for the node of a call that owns its lock and waits. -/
theorem Locked.free_of_owner (h : e.Locked) (hc : c ∈ e.calls)
    (hwait : c.running = none) (howner : e.owner? c.lock = some c) :
    e.Free c.node := by
  intro d hd hnode
  cases hrun : d.running with
  | none => rfl
  | some x =>
      have hod := h.owner d hd (by rw [hrun]; rfl)
      rw [(h.lock_eq_iff hd hc).mpr hnode, howner] at hod
      rw [← Option.some.inj hod, hwait] at hrun
      cases hrun

/-- The owner of a lock may begin its cycle. -/
theorem Sound.prepare (h : e.Sound) (hc : c ∈ e.calls)
    (hwait : c.running = none) (howner : e.owner? c.lock = some c)
    (r : Record) : (e.prepare c r).2.Sound := by
  obtain ⟨e', hsame, hothers, ⟨outcome, hstate, heq, -⟩ |
      ⟨request, hstate, heq, -⟩⟩ :=
    e.prepare_cases c r
  · -- the cycle fails, and its node is idle again
    rw [heq]
    refine .close_waiting h hc hwait hsame (fun v => ?_) outcome
    by_cases hv : v = c.node
    · rw [hv, hstate]
      cases hs : e.state c.node with
      | idle => rfl
      | _ =>
          have hne : e.state c.node ≠ .idle := by simp [hs]
          obtain ⟨d, hd, hnode, hrun⟩ := (h.states _).mp hne
          rw [h.locked.free_of_owner hc hwait howner d hd hnode] at hrun
          cases hrun
    · exact hothers v hv
  · -- the cycle waits for a reply, and its node is busy
    rw [heq]
    have hlocked := h.locked.congr hsame
    have hc' : c ∈ e'.calls := hsame.calls ▸ hc
    have howner' : e'.owner? c.lock = some c := by
      unfold owner?
      rw [hsame.calls]
      exact howner
    refine ⟨hlocked.begun hc' howner' r, fun v => ?_⟩
    show e'.state v ≠ .idle ↔ (e'.begun c r).Busy v
    by_cases hv : v = c.node
    · rw [hv, hstate]
      refine iff_of_true (by simp) ?_
      exact ⟨_, mem_begun_iff.mpr (Or.inr ⟨c, hc', rfl, rfl⟩), rfl, rfl⟩
    · rw [hothers v hv, h.states v]
      constructor
      · rintro ⟨d, hd, hnode, hrun⟩
        have hid : d.id ≠ c.id := fun hid => hv (by
          rw [← hnode, eq_of_key h.locked.ids hd hc hid])
        exact ⟨d, mem_begun_iff.mpr (Or.inl ⟨hsame.calls ▸ hd, hid⟩), hnode,
          hrun⟩
      · rintro ⟨d, hd, hnode, hrun⟩
        rcases mem_begun_iff.mp hd with ⟨hd, -⟩ | ⟨b, hb, hid, rfl⟩
        · exact ⟨d, hsame.calls ▸ hd, hnode, hrun⟩
        · have hbc := eq_of_key hlocked.ids hb hc' hid
          subst hbc
          exact absurd hnode.symm hv

/-- A call that enters leaves locks and states sound, whether it is the owner
    or not. -/
theorem Sound.enter (h : e.Sound) (hc : c ∈ e.calls)
    (hwait : c.running = none) : (e.enter c).2.Sound := by
  unfold Engine.enter
  split
  · rename_i howns
    split
    · have hsame : e.SameCalls (e.skip c.node "no record for node").2 :=
        ⟨rfl, rfl, rfl, rfl, rfl⟩
      exact .close_waiting h hc hwait hsame (fun _ => rfl) _
    · exact h.prepare hc hwait ((ownsLock_iff h.locked hc).mp howns) _
  · exact h

/-! ## A new call -/

/-- The lock of a new call is that of its node, or a new one. -/
theorem lockFor_cases (e : Engine) (v : Handle) :
    (∃ l, e.locks.get? v = some l ∧ e.lockFor v = (l, e))
      ∨ (e.locks.get? v = none
          ∧ e.lockFor v
            = (e.nextLock,
                { e with
                  locks := e.locks.insert v e.nextLock
                  nextLock := e.nextLock + 1 })) := by
  unfold lockFor
  cases e.locks.get? v with
  | none => exact Or.inr ⟨rfl, rfl⟩
  | some l => exact Or.inl ⟨l, rfl, rfl⟩

/-- An engine with one more call, which waits. -/
structure Arrived (e e' : Engine) (c : Call) : Prop where
  /-- The call comes last. -/
  calls : e'.calls = e.calls ++ [c]
  /-- It has the next number. -/
  id : c.id = e.nextCall
  /-- It waits. -/
  waits : c.running = none
  /-- The number after it is next. -/
  nextCall : e'.nextCall = e.nextCall + 1
  /-- Its lock is that of its node. -/
  lock : e'.locks.get? c.node = some c.lock
  /-- Other nodes keep theirs. -/
  others : ∀ u, u ≠ c.node → e'.locks.get? u = e.locks.get? u
  /-- A lock that was there is taken. -/
  kept : ∀ l, e.locks.get? c.node = some l → c.lock = l
  /-- Without one there is a new lock. -/
  fresh : e.locks.get? c.node = none → c.lock = e.nextLock
  /-- Locks are counted. -/
  grows : e.nextLock ≤ e'.nextLock
  /-- The lock is counted. -/
  numbered : c.lock < e'.nextLock
  /-- States stay. -/
  states : ∀ u, e'.state u = e.state u

/-- A new call comes last and waits. -/
theorem arrived_arrive (h : e.Locked) (v : Handle) :
    Arrived e (e.arrive v).2 (e.arrive v).1 := by
  unfold arrive
  rcases e.lockFor_cases v with ⟨l, hl, hlock⟩ | ⟨hnone, hlock⟩
  · rw [hlock]
    exact
      { calls := rfl
        id := rfl
        waits := rfl
        nextCall := rfl
        lock := hl
        others := fun _ _ => rfl
        kept := fun l' hl' => Option.some.inj (hl.symm.trans hl')
        fresh := fun hnone => by
          rw [show e.locks.get? v = none from hnone] at hl
          cases hl
        grows := Nat.le_refl _
        numbered := h.numbered v l hl
        states := fun _ => rfl }
  · rw [hlock]
    exact
      { calls := rfl
        id := rfl
        waits := rfl
        nextCall := rfl
        lock := by
          show (e.locks.insert v e.nextLock).get? v = some e.nextLock
          rw [Table.get?_insert, if_pos rfl]
        others := fun u hu => by
          show (e.locks.insert v e.nextLock).get? u = _
          rw [Table.get?_insert, if_neg hu]
        kept := fun l hl => by
          rw [show e.locks.get? v = some l from hl] at hnone
          cases hnone
        fresh := fun _ => rfl
        grows := Nat.le_succ _
        numbered := Nat.lt_succ_self _
        states := fun _ => rfl }

/-- No other node has the lock of a new call. -/
theorem Arrived.lock_ne (h : e.Locked) (ha : Arrived e e' c)
    (hv : v ≠ c.node) : e.locks.get? v ≠ some c.lock := by
  intro hl
  cases hold : e.locks.get? c.node with
  | none =>
      -- a new lock has a number that no lock had
      have hlt := h.numbered v _ hl
      rw [ha.fresh hold] at hlt
      exact Nat.lt_irrefl _ hlt
  | some l =>
      rw [ha.kept l hold] at hl
      exact hv (h.apart _ _ _ hl hold)

/-- A new call shares the lock of its node, or takes a new one. -/
theorem Arrived.locked (h : e.Locked) (ha : Arrived e e' c) : e'.Locked where
  ids := by
    rw [ha.calls, List.map_append, List.nodup_append]
    refine ⟨h.ids, List.pairwise_singleton _ _, ?_⟩
    intro a hmem b hb hab
    obtain ⟨d, hd, rfl⟩ := List.mem_map.mp hmem
    have hb' : b = c.id := List.mem_singleton.mp hb
    have hlt := h.counted d hd
    rw [hab, hb', ha.id] at hlt
    exact Nat.lt_irrefl _ hlt
  counted d hd := by
    rw [ha.calls] at hd
    rw [ha.nextCall]
    rcases List.mem_append.mp hd with hd | hd
    · exact Nat.lt_succ_of_lt (h.counted d hd)
    · rw [List.mem_singleton.mp hd, ha.id]
      exact Nat.lt_succ_self _
  shared d hd := by
    rw [ha.calls] at hd
    rcases List.mem_append.mp hd with hd | hd
    · have hl := h.shared d hd
      by_cases hnode : d.node = c.node
      · rw [hnode] at hl
        rw [hnode, ha.lock, ha.kept _ hl]
      · rw [ha.others _ hnode, hl]
    · rw [List.mem_singleton.mp hd]
      exact ha.lock
  held v l hl := by
    rw [ha.calls]
    by_cases hv : v = c.node
    · exact ⟨c, by simp, hv.symm⟩
    · rw [ha.others v hv] at hl
      obtain ⟨d, hd, hnode⟩ := h.held v l hl
      exact ⟨d, List.mem_append_left _ hd, hnode⟩
  numbered v l hl := by
    by_cases hv : v = c.node
    · rw [hv, ha.lock] at hl
      cases hl
      exact ha.numbered
    · rw [ha.others v hv] at hl
      exact Nat.lt_of_lt_of_le (h.numbered v l hl) ha.grows
  apart u v l hu hv := by
    by_cases huc : u = c.node
    · by_cases hvc : v = c.node
      · rw [huc, hvc]
      · rw [huc, ha.lock] at hu
        rw [ha.others v hvc, ← hu] at hv
        exact absurd hv (ha.lock_ne h hvc)
    · rw [ha.others u huc] at hu
      by_cases hvc : v = c.node
      · rw [hvc, ha.lock] at hv
        rw [← hv] at hu
        exact absurd hu (ha.lock_ne h huc)
      · rw [ha.others v hvc] at hv
        exact h.apart u v l hu hv
  owner d hd hrun := by
    rw [ha.calls] at hd
    rcases List.mem_append.mp hd with hd | hd
    · -- a new call comes last, so the owner of a lock stays first
      unfold owner?
      rw [ha.calls, List.find?_append]
      have howner := h.owner d hd hrun
      unfold owner? at howner
      rw [howner]
      rfl
    · rw [List.mem_singleton.mp hd, ha.waits] at hrun
      cases hrun

/-- A new call leaves locks and states sound. -/
theorem Arrived.sound (h : e.Sound) (ha : Arrived e e' c) : e'.Sound where
  locked := ha.locked h.locked
  states v := by
    rw [ha.states, h.states]
    constructor
    · rintro ⟨d, hd, hnode, hrun⟩
      exact ⟨d, ha.calls ▸ List.mem_append_left _ hd, hnode, hrun⟩
    · rintro ⟨d, hd, hnode, hrun⟩
      rw [ha.calls] at hd
      rcases List.mem_append.mp hd with hd | hd
      · exact ⟨d, hd, hnode, hrun⟩
      · rw [List.mem_singleton.mp hd, ha.waits] at hrun
        cases hrun

/-! ## Actions -/

/-- Starting a call leaves locks and states sound. -/
theorem Sound.start (h : e.Sound) (v : Handle) : (e.start v).2.2.Sound := by
  have ha := arrived_arrive h.locked v
  have hsound := ha.sound h
  have hmem : (e.arrive v).1 ∈ (e.arrive v).2.calls := by
    rw [ha.calls]
    simp
  unfold Engine.start
  simp only
  split
  · have hsame : (e.arrive v).2.SameCalls
        ((e.arrive v).2.skip v "already running").2 :=
      ⟨rfl, rfl, rfl, rfl, rfl⟩
    exact .close_waiting hsound hmem ha.waits hsame (fun _ => rfl) _
  · exact hsound.enter hmem ha.waits

/-- A call that goes on leaves locks and states sound. -/
theorem Sound.resume (h : e.Sound) (id : CallId) : (e.resume id).2.Sound := by
  unfold Engine.resume
  split
  · rename_i hc
    exact h.enter (h.locked.call?_eq_some_iff.mp hc).1 rfl
  · exact h

/-- A reply leaves locks and states sound. -/
theorem Sound.reply (h : e.Sound) (id : CallId) (answer : Reply) :
    (e.reply id answer).2.Sound := by
  unfold Engine.reply
  split
  · rename_i id v lock r hcall
    have hc := (h.locked.call?_eq_some_iff.mp hcall).1
    obtain ⟨-, hsame, hothers, -⟩ := e.resolve_settle v r answer
    refine .close (e := (e.resolve v r answer).2.setState v .idle)
      (h.locked.congr ⟨hsame.calls, hsame.locks, hsame.nextCall,
        hsame.nextLock, hsame.surroundings⟩) (hsame.calls ▸ hc) (fun u => ?_) _
    show ((e.resolve v r answer).2.setState v .idle).state u ≠ .idle ↔
      ∃ d ∈ (e.resolve v r answer).2.calls, _
    rw [state_setState, hsame.calls]
    by_cases hu : u = v
    · -- no other cycle ran for the node
      rw [if_pos hu]
      refine iff_of_false (fun hne => hne rfl) ?_
      rintro ⟨d, hd, hid, hnode, hrun⟩
      exact hid (congrArg Call.id
        (h.locked.eq_of_running hd hc (hnode.trans hu) hrun rfl))
    · rw [if_neg hu, hothers u hu, h.states]
      constructor
      · rintro ⟨d, hd, hnode, hrun⟩
        refine ⟨d, hd, fun hid => hu ?_, hnode, hrun⟩
        rw [← hnode, eq_of_key h.locked.ids hd hc hid]
      · rintro ⟨d, hd, -, hnode, hrun⟩
        exact ⟨d, hd, hnode, hrun⟩
  · exact h

/-- Every action leaves locks and states sound. -/
theorem Sound.perform (h : e.Sound) (a : Action) : (e.perform a).Sound := by
  cases a with
  | start v => exact h.start v
  | resume id => exact h.resume id
  | reply id answer => exact h.reply id answer
  | select node =>
      show (e.select node).2.Sound
      unfold select
      split
      · exact ⟨h.locked.congr ⟨rfl, rfl, rfl, rfl, rfl⟩, h.states⟩
      · exact h

/-! ## Runs -/

/-- An engine without calls. -/
structure Quiet (e : Engine) : Prop where
  /-- No call is left. -/
  calls : e.calls = []
  /-- No lock is kept. -/
  locks : e.locks = Table.empty
  /-- Every node is idle. -/
  states : ∀ v, e.state v = .idle

/-- Without calls there is nothing that could be unsound. -/
theorem Quiet.sound (h : e.Quiet) : e.Sound where
  locked :=
    { ids := by simp [h.calls]
      counted := by simp [h.calls]
      shared := by simp [h.calls]
      held := by simp [h.locks]
      numbered := by simp [h.locks]
      apart := by simp [h.locks]
      owner := by simp [h.calls] }
  states v := by simp [Busy, h.calls, h.states]

/-- A lock is kept for the nodes with calls. -/
theorem Locked.contains_iff (h : e.Locked) :
    e.locks.contains v = true ↔ ∃ c ∈ e.calls, c.node = v := by
  rw [Table.contains_iff]
  constructor
  · rintro ⟨l, hv⟩
    exact h.held v l hv
  · rintro ⟨c, hc, rfl⟩
    exact ⟨c.lock, h.shared c hc⟩

/-- Once all calls have ended nothing is left of them. -/
theorem Sound.quiet (h : e.Sound) (hnone : e.calls = []) : e.Quiet where
  calls := hnone
  locks := by
    refine Table.ext_get? (fun v => ?_)
    have hv : ¬ e.locks.contains v = true := by
      rw [h.locked.contains_iff, hnone]
      rintro ⟨c, hc, -⟩
      cases hc
    rw [Bool.not_eq_true, Table.contains_eq_false_iff] at hv
    exact hv
  states v := by
    apply Classical.byContradiction
    intro hne
    obtain ⟨c, hc, -⟩ := (h.states v).mp hne
    rw [hnone] at hc
    cases hc

/-- What calls on a quiet engine lead to, in any order of their steps and with
    any changes of the workbench in between. -/
inductive Run : Engine → Prop where
  /-- Nothing has been called yet. -/
  | quiet {e : Engine} (h : e.Quiet) : Run e
  /-- One more step of a call, or a new call. -/
  | act {e : Engine} (h : Run e) (a : Action) : Run (e.perform a)
  /-- The workbench changes. -/
  | change {e : Engine} (h : Run e) (b : Workbench) : Run { e with bench := b }

/-- By induction over the run: locks and states are sound after every step. -/
theorem Run.sound (h : Run e) : e.Sound := by
  induction h with
  | quiet h => exact h.sound
  | act _ a ih => exact ih.perform a
  | change _ b ih =>
      exact ⟨ih.locked.congr ⟨rfl, rfl, rfl, rfl, rfl⟩, ih.states⟩

/-- Calls on a node exclude each other, and nothing is left behind by calls
    that have ended. -/
structure Exclusive (e : Engine) : Prop where
  /-- All calls on a node share the lock that the table keeps for it. -/
  shared : ∀ c ∈ e.calls, e.locks.get? c.node = some c.lock
  /-- Calls on different nodes have different locks. -/
  apart : ∀ c ∈ e.calls, ∀ d ∈ e.calls, c.lock = d.lock → c.node = d.node
  /-- The table keeps a lock exactly for the nodes with calls. -/
  kept : ∀ v, e.locks.contains v = true ↔ ∃ c ∈ e.calls, c.node = v
  /-- A call whose cycle has started owns the lock of its node. -/
  owner : ∀ c ∈ e.calls, c.running.isSome = true → e.holder? c.node = some c
  /-- At most one cycle runs for a node, and so at most one backend is asked
      for it. -/
  single : ∀ c ∈ e.calls, ∀ d ∈ e.calls, c.node = d.node →
    c.running.isSome = true → d.running.isSome = true → c = d
  /-- A node is not idle exactly while a cycle runs for it. -/
  states : ∀ v, e.state v ≠ .idle ↔
    ∃ c ∈ e.calls, c.node = v ∧ c.running.isSome = true
  /-- Without calls the engine is quiet. -/
  quiet : e.calls = [] → e.Quiet

theorem Run.exclusive (h : Run e) : e.Exclusive := by
  have hs := h.sound
  have hl := hs.locked
  refine
    { shared := hl.shared
      apart := fun c hc d hd => (hl.lock_eq_iff hc hd).mp
      kept := fun v => hl.contains_iff
      owner := fun c hc hrun => ?_
      single := fun c hc d hd => hl.eq_of_running hc hd
      states := hs.states
      quiet := hs.quiet }
  unfold holder?
  rw [hl.shared c hc]
  exact hl.owner c hc hrun

/-- Two calls on one node, the first of which asks a backend. -/
theorem exclusive_two_calls :
    let bench : Workbench :=
      ⟨{}, { templates := Table.empty.insert "math/sum" Template.sum }⟩
    let e : Engine :=
      { bench := (bench.addNode "math/sum").2, overlap := .queue }
    let e' := (e.perform (.start 1)).perform (.start 1)
    Run e' ∧ e'.calls.map (fun c => c.running.isSome) = [true, false]
      ∧ e'.Exclusive := by
  intro bench e e'
  have h : Run e' :=
    ((Run.quiet ⟨rfl, rfl, fun _ => rfl⟩).act (.start 1)).act (.start 1)
  exact ⟨h, by decide, h.exclusive⟩

end NodeFlow.Engine
