import NodeFlow.Proofs.Execution.Locks

/-! # What a step of a call tells

    A step of a call may tell the host and the user something, and may end
    the call with an outcome.  `Effect` lists all that a step can tell,
    together with what becomes of the calls: there are five ways to end, and
    one to begin a cycle.  Every step of every call is one of these
    (`stepped_start`, `stepped_resume`, `stepped_reply`). -/

namespace NodeFlow

/-- What a call has come to, if it has ended. -/
def Progress.outcome? : Progress → Option Outcome
  | .ends outcome => some outcome
  | _ => none

/-- What is told: events to the host, messages to the user, and outcomes. -/
structure Told where
  /-- The events. -/
  events : List Event := []
  /-- The messages. -/
  notes : List String := []
  /-- The outcomes. -/
  outcomes : List Outcome := []
  deriving DecidableEq, Repr

/-- What is told first and what is told then. -/
def Told.append (a b : Told) : Told :=
  ⟨a.events ++ b.events, a.notes ++ b.notes, a.outcomes ++ b.outcomes⟩

instance : Append Told := ⟨Told.append⟩

namespace Told

variable (a b : Told)

@[simp] theorem events_append : (a ++ b).events = a.events ++ b.events := rfl

@[simp] theorem append_empty : a ++ ({} : Told) = a := by
  show Told.mk (a.events ++ []) (a.notes ++ []) (a.outcomes ++ []) = a
  simp only [List.append_nil]

@[simp] theorem empty_append : ({} : Told) ++ a = a := rfl

end Told

/-- The message about a cycle that failed. -/
def Record.complaint (x : Record) (error : String) : String :=
  x.title ++ " failed: " ++ error

namespace Engine

variable {e e' : Engine} {c d : Call} {v : Handle} {p : Progress} {t : Told}

/-- Nothing is told about a trigger but that it is skipped. -/
def skipping (x : Option Record) (reason : String) : Told :=
  ⟨[.executionSkipped ((x.map Record.id).getD "") reason], [],
    [.skipped reason]⟩

/-- A cycle begins. -/
def beginning (x : Record) (backend : Backend) : Told :=
  ⟨[.executionStarted x.id backend.name], [], []⟩

/-- A cycle fails. -/
def failing (x : Record) (error : String) : Told :=
  ⟨[.executionFailed x.id error], [x.complaint error], [.failed error]⟩

/-- A cycle is completed. -/
def completing (x : Record) (outputs : List (Option Json)) : Told :=
  ⟨[.executionCompleted x.id outputs], [], [.completed outputs]⟩

/-- Whether the cycle of a record may begin for a call. -/
structure Begins (e : Engine) (c : Call) (x : Record) : Prop where
  /-- No cycle runs for the node of the call. -/
  free : e.Free c.node
  /-- The record is that of the node. -/
  record : e.bench.registry.recordOf? c.node = some x

/-- What a step of a call can tell, and the calls that are left. -/
inductive Effect (e : Engine) (c : Call) : Told → List Call → Prop where
  /-- The call goes on waiting. -/
  | waits : Effect e c {} e.calls
  /-- The call is skipped before its cycle. -/
  | skips (reason : String) (hwait : c.running = none) :
      Effect e c (skipping (e.bench.registry.recordOf? c.node) reason)
        (e.release c).calls
  /-- There is no backend for the record. -/
  | rejects {x : Record} {failure : Failure} (hx : e.Begins c x)
      (hb : Backend.select (x.codeType?.getD "") = .error failure) :
      Effect e c (failing x failure.message) (e.release c).calls
  /-- A cycle begins, and a backend is asked. -/
  | begins {x : Record} {backend : Backend} (hx : e.Begins c x)
      (hb : Backend.select (x.codeType?.getD "") = .ok backend) :
      Effect e c (beginning x backend) (e.begun c x).calls
  /-- A cycle begins and fails before a backend is asked. -/
  | breaks {x : Record} {backend : Backend} (hx : e.Begins c x)
      (hb : Backend.select (x.codeType?.getD "") = .ok backend)
      (error : String) :
      Effect e c (beginning x backend ++ failing x error) (e.release c).calls
  /-- A cycle that has begun fails. -/
  | fails {x : Record} (hx : c.running = some x) (error : String) :
      Effect e c (failing x error) (e.release c).calls
  /-- A cycle that has begun is completed. -/
  | completes {x : Record} (hx : c.running = some x)
      (outputs : List (Option Json)) :
      Effect e c (completing x outputs) (e.release c).calls

/-- What a step of a call does to what the host and the user are told. -/
structure Stepped (e : Engine) (c : Call) (p : Progress) (e' : Engine)
    (t : Told) : Prop where
  /-- It tells what a step can tell. -/
  effect : Effect e c t e'.calls
  /-- The events come last. -/
  events : e'.events = e.events ++ t.events
  /-- The messages come last. -/
  notes : e'.notes = e.notes ++ t.notes
  /-- The outcome is that of the call. -/
  outcome : t.outcomes = p.outcome?.toList
  /-- No call is new. -/
  nextCall : e'.nextCall = e.nextCall

/-- A call that waits tells nothing. -/
theorem stepped_waits (e : Engine) (c : Call) :
    Stepped e c .waits e {} :=
  ⟨.waits, (List.append_nil _).symm, (List.append_nil _).symm, rfl, rfl⟩

/-! ## Before the request -/

/-- A call that is skipped tells this with the identifier of the record that
    its node has, if it has one. -/
theorem stepped_skip (e : Engine) (hwait : c.running = none)
    (reason : String) :
    Stepped e c (close c (e.skip c.node reason)).1
      (close c (e.skip c.node reason)).2
      (skipping (e.bench.registry.recordOf? c.node) reason) :=
  ⟨.skips reason hwait, rfl, (List.append_nil _).symm, rfl, rfl⟩

/-- A call that gets ready begins its cycle, or fails before a backend is
    asked. -/
theorem stepped_prepare {x : Record} (hx : e.Begins c x) :
    ∃ t, Stepped e c (e.prepare c x).1 (e.prepare c x).2 t := by
  unfold prepare
  simp only
  cases hb : Backend.select (x.codeType?.getD "") with
  | error failure =>
      exact ⟨_, .rejects hx hb, rfl, rfl, rfl, rfl⟩
  | ok backend =>
      simp only
      split
      · rename_i failure _
        exact ⟨_, .breaks hx hb failure.message, List.append_assoc _ _ _,
          rfl, rfl, rfl⟩
      · exact ⟨_, .begins hx hb, rfl, (List.append_nil _).symm, rfl, rfl⟩

/-- A call that enters waits, is skipped, begins or fails. -/
theorem stepped_enter (h : e.Locked) (hc : c ∈ e.calls)
    (hwait : c.running = none) :
    ∃ t, Stepped e c (e.enter c).1 (e.enter c).2 t := by
  unfold enter
  split
  · rename_i howns
    have howner := (ownsLock_iff h hc).mp howns
    split
    · exact ⟨_, e.stepped_skip hwait _⟩
    · rename_i x hx
      exact stepped_prepare ⟨h.free_of_owner hc hwait howner, hx⟩
  · exact ⟨_, e.stepped_waits c⟩

/-! ## From the reply on -/

/-- A call that is answered ends its cycle. -/
theorem stepped_resolve {x : Record} (hx : c.running = some x)
    (answer : Reply) :
    ∃ t, Stepped e c
      (close c ((e.resolve c.node x answer).1,
        (e.resolve c.node x answer).2.setState c.node .idle)).1
      (close c ((e.resolve c.node x answer).1,
        (e.resolve c.node x answer).2.setState c.node .idle)).2 t := by
  unfold resolve
  cases answer with
  | error failure =>
      exact ⟨_, .fails hx failure.message, rfl, rfl, rfl, rfl⟩
  | ok result =>
      simp only
      cases result.error? with
      | some detail => exact ⟨_, .fails hx detail, rfl, rfl, rfl, rfl⟩
      | none =>
          exact ⟨_, .completes hx _, rfl, (List.append_nil _).symm, rfl, rfl⟩

/-! ## Steps -/

/-- A call that arrives tells nothing. -/
theorem arrive_told (e : Engine) (v : Handle) :
    (e.arrive v).2.events = e.events ∧ (e.arrive v).2.notes = e.notes := by
  unfold arrive
  rcases e.lockFor_cases v with ⟨l, -, hlock⟩ | ⟨-, hlock⟩ <;> rw [hlock] <;>
    exact ⟨rfl, rfl⟩

/-- A new call takes its first step, or waits. -/
theorem stepped_start (h : e.Sound) (v : Handle) :
    ∃ t, Stepped (e.arrive v).2 (e.arrive v).1 (e.start v).2.1
      (e.start v).2.2 t := by
  have ha := arrived_arrive h.locked v
  have hmem : (e.arrive v).1 ∈ (e.arrive v).2.calls := by
    rw [ha.calls]
    simp
  unfold start
  simp only
  split
  · exact ⟨_, stepped_skip _ ha.waits "already running"⟩
  · exact stepped_enter (ha.locked h.locked) hmem ha.waits

/-- A call that goes on takes its first step, or waits. -/
theorem stepped_resume (h : e.Sound) {id : CallId}
    (hc : e.call? id = some c) :
    ∃ t, Stepped e c (e.resume id).1 (e.resume id).2 t := by
  have hmem := (h.locked.call?_eq_some_iff.mp hc).1
  obtain ⟨cid, v, lock, running⟩ := c
  unfold resume
  rw [hc]
  cases running with
  | none => exact stepped_enter h.locked hmem rfl
  | some x => exact ⟨_, e.stepped_waits _⟩

/-- A call that gets a reply ends its cycle if it runs one. -/
theorem stepped_reply {id : CallId} (hc : e.call? id = some c)
    (answer : Reply) :
    ∃ t, Stepped e c (e.reply id answer).1 (e.reply id answer).2 t := by
  obtain ⟨cid, v, lock, running⟩ := c
  unfold reply
  rw [hc]
  cases running with
  | none => exact ⟨_, e.stepped_waits _⟩
  | some x => exact stepped_resolve (c := ⟨cid, v, lock, some x⟩) rfl answer

end Engine
end NodeFlow
