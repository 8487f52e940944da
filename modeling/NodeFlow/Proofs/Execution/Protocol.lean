import NodeFlow.Proofs.Execution.Steps
import NodeFlow.Proofs.Registry.Mutual

/-! # What calls tell

    Calls take their steps in any order, and the workbench may change in
    between as long as nodes keep their records.  A log says of every step
    which call took it and what it told.  What a call has told when it has
    ended is one of four things, each of them in agreement with its outcome;
    and in the events of one record what begins a cycle and what ends it
    alternate (`History.protocol`). -/

namespace NodeFlow

/-- The identifiers of the records that nodes have.  No two nodes have one
    record. -/
structure Assignment where
  /-- The identifier of the record of a node. -/
  id? : Handle → Option String
  /-- Two nodes do not share one. -/
  apart : ∀ u v i, id? u = some i → id? v = some i → u = v

namespace Assignment

/-- Whether nodes have the records that an assignment says, or none. -/
def Fits (s : Assignment) (r : Registry) : Prop :=
  ∀ v x, r.recordOf? v = some x → s.id? v = some x.id

/-- The assignment of a registry. -/
def ofRegistry {r : Registry} (h : r.Tied) : Assignment where
  id? v := (r.recordOf? v).map Record.id
  apart u v i hu hv := by
    have hlinked : ∀ w, (r.recordOf? w).map Record.id = some i →
        r.links.get? i = some w := fun w hw =>
      h.linked w i (h.exists_recordOf?_iff.mp (Option.map_eq_some_iff.mp hw))
    rw [hlinked u hu] at hlinked
    exact Option.some.inj (hlinked v hv)

/-- Nodes have the records that their own assignment says. -/
theorem fits_ofRegistry {r : Registry} (h : r.Tied) :
    (ofRegistry h).Fits r := fun v x hx => by
  show (r.recordOf? v).map Record.id = some x.id
  rw [hx]
  rfl

end Assignment

namespace Engine

variable {s : Assignment} {e e' e₀ : Engine} {c d : Call} {v : Handle}
  {p : Progress} {t : Told} {id : CallId} {i : String}

/-! ## Logs -/

/-- A step in a log. -/
structure Entry where
  /-- The call that took the step. -/
  call : Option CallId
  /-- The record that the node of the call had then. -/
  record : Option Record
  /-- What the step told. -/
  told : Told

/-- What has been told on the way from one engine to another. -/
def told (e e' : Engine) (p : Progress) : Told :=
  ⟨e'.events.drop e.events.length, e'.notes.drop e.notes.length,
    p.outcome?.toList⟩

/-- The record of the node of a call. -/
def recordOfCall? (e : Engine) (id : CallId) : Option Record :=
  (e.call? id).bind (fun c => e.bench.registry.recordOf? c.node)

/-- An action in a log. -/
def entry (e : Engine) : Action → Entry
  | .start v =>
      ⟨some (e.start v).1, e.bench.registry.recordOf? v,
        e.told (e.start v).2.2 (e.start v).2.1⟩
  | .resume id =>
      ⟨some id, e.recordOfCall? id, e.told (e.resume id).2 (e.resume id).1⟩
  | .reply id answer =>
      ⟨some id, e.recordOfCall? id,
        e.told (e.reply id answer).2 (e.reply id answer).1⟩
  | .select v => ⟨none, none, e.told (e.select v).2 .waits⟩

/-- What actions lead to and how they are logged, while nodes keep their
    records. -/
inductive History (s : Assignment) (e₀ : Engine) :
    Engine → List Entry → Prop where
  /-- Nothing has happened yet. -/
  | start : History s e₀ e₀ []
  /-- One more step of a call, or a new call, or a selection. -/
  | act {e : Engine} {log : List Entry} (h : History s e₀ e log)
      (a : Action) : History s e₀ (e.perform a) (log ++ [e.entry a])
  /-- The workbench changes, but nodes keep their records. -/
  | change {e : Engine} {log : List Entry} (h : History s e₀ e log)
      {b : Workbench} (hb : s.Fits b.registry) :
      History s e₀ { e with bench := b } log

/-- What a call has told in all. -/
def account (log : List Entry) (id : CallId) : Told :=
  log.foldl (fun a t => if t.call = some id then a ++ t.told else a) {}

/-- All events, with the calls that they come from. -/
def stream (log : List Entry) : List (Option CallId × Event) :=
  log.flatMap (fun t => t.told.events.map (fun event => (t.call, event)))

/-- Whether the step of a call that told an event first found a record. -/
def Saw (log : List Entry) (id : CallId) (event : Event)
    (x : Option Record) : Prop :=
  ∃ t ∈ log, t.call = some id ∧ t.record = x
    ∧ t.told.events.head? = some event

/-- One more entry counts for the call that it comes from. -/
theorem account_append (log : List Entry) (t : Entry) (id : CallId) :
    account (log ++ [t]) id
      = if t.call = some id then account log id ++ t.told
        else account log id := by
  rw [account, List.foldl_append]
  rfl

/-- A step of a call follows what the call has told. -/
theorem account_append_self (log : List Entry) {u : Entry}
    (hcall : u.call = some id) :
    account (log ++ [u]) id = account log id ++ u.told := by
  rw [account_append, if_pos hcall]

/-- The step of one call does not count for another. -/
theorem account_append_of_ne (log : List Entry) {u : Entry}
    (hcall : u.call ≠ some id) : account (log ++ [u]) id = account log id := by
  rw [account_append, if_neg hcall]

/-- Nor does a step that tells nothing. -/
theorem account_append_of_silent (log : List Entry) {u : Entry}
    (htold : u.call = some id → u.told = {}) :
    account (log ++ [u]) id = account log id := by
  rw [account_append]
  split
  · rename_i hcall
    rw [htold hcall, Told.append_empty]
  · rfl

/-- The events of one more entry come last. -/
theorem stream_append (log : List Entry) (t : Entry) :
    stream (log ++ [t])
      = stream log ++ t.told.events.map (fun event => (t.call, event)) := by
  rw [stream, List.flatMap_append, List.flatMap_singleton]
  rfl

/-- What has been seen stays seen. -/
theorem Saw.append {log : List Entry} {event : Event} {x : Option Record}
    (h : Saw log id event x) (t : Entry) : Saw (log ++ [t]) id event x := by
  obtain ⟨u, hu, hsaw⟩ := h
  exact ⟨u, List.mem_append_left _ hu, hsaw⟩

/-- The last entry saw the record of its event. -/
theorem saw_last (log : List Entry) {t : Entry} {event : Event}
    (hcall : t.call = some id) (hevent : t.told.events.head? = some event) :
    Saw (log ++ [t]) id event t.record :=
  ⟨t, by simp, hcall, rfl, hevent⟩

/-! ## The protocol of one call -/

/-- What a call has told that has not ended.  `saw` says which record its node
    had when it told an event. -/
inductive Pending (saw : Event → Option Record → Prop) :
    Option Record → Told → Prop where
  /-- Its cycle has not begun. -/
  | waits : Pending saw none {}
  /-- Its cycle has begun. -/
  | runs {x : Record} {backend : Backend}
      (hb : Backend.select (x.codeType?.getD "") = .ok backend)
      (hsaw : saw (.executionStarted x.id backend.name) (some x)) :
      Pending saw (some x) ⟨[.executionStarted x.id backend.name], [], []⟩

/-- What a call has told that has ended. -/
inductive Ended (saw : Event → Option Record → Prop) : Told → Prop where
  /-- It was skipped. -/
  | skipped {x : Option Record} {reason : String}
      (hsaw :
        saw (.executionSkipped ((x.map Record.id).getD "") reason) x) :
      Ended saw
        ⟨[.executionSkipped ((x.map Record.id).getD "") reason], [],
          [.skipped reason]⟩
  /-- There was no backend. -/
  | rejected {x : Record} {failure : Failure}
      (hb : Backend.select (x.codeType?.getD "") = .error failure)
      (hsaw : saw (.executionFailed x.id failure.message) (some x)) :
      Ended saw
        ⟨[.executionFailed x.id failure.message],
          [x.title ++ " failed: " ++ failure.message],
          [.failed failure.message]⟩
  /-- Its cycle failed. -/
  | failed {x : Record} {backend : Backend} {error : String}
      (hb : Backend.select (x.codeType?.getD "") = .ok backend)
      (hsaw : saw (.executionStarted x.id backend.name) (some x)) :
      Ended saw
        ⟨[.executionStarted x.id backend.name, .executionFailed x.id error],
          [x.title ++ " failed: " ++ error], [.failed error]⟩
  /-- Its cycle was completed. -/
  | completed {x : Record} {backend : Backend} {outputs : List (Option Json)}
      (hb : Backend.select (x.codeType?.getD "") = .ok backend)
      (hsaw : saw (.executionStarted x.id backend.name) (some x)) :
      Ended saw
        ⟨[.executionStarted x.id backend.name,
            .executionCompleted x.id outputs],
          [], [.completed outputs]⟩

/-- A call whose cycle has not begun has told nothing. -/
theorem Pending.eq_empty {saw : Event → Option Record → Prop}
    (h : Pending saw none t) : t = {} := by
  cases h
  rfl

/-- A call that is pending stays so while others go on. -/
theorem Pending.append {log : List Entry} {x : Option Record}
    (h : Pending (Saw log id) x t) (u : Entry) :
    Pending (Saw (log ++ [u]) id) x t := by
  cases h with
  | waits => exact .waits
  | runs hb h => exact .runs hb (h.append u)

/-- What a call told that has ended stands. -/
theorem Ended.append {log : List Entry} (h : Ended (Saw log id) t)
    (u : Entry) : Ended (Saw (log ++ [u]) id) t := by
  cases h with
  | skipped h => exact .skipped (h.append u)
  | rejected hb h => exact .rejected hb (h.append u)
  | failed hb h => exact .failed hb (h.append u)
  | completed hb h => exact .completed hb (h.append u)

/-- A step lets a call wait, or begins its cycle, or ends it in accordance
    with what it has told before. -/
theorem Effect.cases_calls {calls : List Call} (hc : c ∈ e.calls)
    (he : Effect e c t calls) :
    (t = {} ∧ calls = e.calls)
      ∨ (∃ x backend, e.Begins c x
          ∧ Backend.select (x.codeType?.getD "") = .ok backend
          ∧ t = beginning x backend ∧ calls = (e.begun c x).calls)
      ∨ (calls = (e.release c).calls
          ∧ ∀ (saw : Event → Option Record → Prop) (before : Told),
            (∀ event, t.events.head? = some event →
              saw event (e.bench.registry.recordOf? c.node)) →
            Pending saw c.running before → Ended saw (before ++ t)) := by
  -- before its cycle begins a call has told nothing
  have hempty : ∀ {saw : Event → Option Record → Prop} {before : Told},
      c.running = none → Pending saw c.running before → before = {} := by
    intro saw before hwait hbefore
    rw [hwait] at hbefore
    exact hbefore.eq_empty
  cases he with
  | waits => exact Or.inl ⟨rfl, rfl⟩
  | begins hx hb => exact Or.inr (Or.inl ⟨_, _, hx, hb, rfl, rfl⟩)
  | skips reason hwait =>
      refine Or.inr (Or.inr ⟨rfl, fun saw before hsaw hbefore => ?_⟩)
      rw [hempty hwait hbefore, Told.empty_append]
      exact .skipped (hsaw _ rfl)
  | rejects hx hb =>
      refine Or.inr (Or.inr ⟨rfl, fun saw before hsaw hbefore => ?_⟩)
      rw [hempty (hx.free c hc rfl) hbefore, Told.empty_append]
      exact .rejected hb (hx.record ▸ hsaw _ rfl)
  | breaks hx hb error =>
      refine Or.inr (Or.inr ⟨rfl, fun saw before hsaw hbefore => ?_⟩)
      rw [hempty (hx.free c hc rfl) hbefore, Told.empty_append]
      exact .failed hb (hx.record ▸ hsaw _ rfl)
  | fails hx error =>
      refine Or.inr (Or.inr ⟨rfl, fun saw before _ hbefore => ?_⟩)
      rw [hx] at hbefore
      cases hbefore with
      | runs hb hsaw => exact .failed hb hsaw
  | completes hx outputs =>
      refine Or.inr (Or.inr ⟨rfl, fun saw before _ hbefore => ?_⟩)
      rw [hx] at hbefore
      cases hbefore with
      | runs hb hsaw => exact .completed hb hsaw

/-! ## Brackets -/

/-- The call whose cycle is open for a record after one more event.  There is
    no answer if a cycle begins while another one is open, or ends that is not
    the one that is open; only a cycle that has not begun may fail on its
    own. -/
def bracket (i : String) (current : Option CallId) :
    Option CallId × Event → Option (Option CallId)
  | (call, .executionStarted j _) =>
      if j = i then if current = none then some call else none
      else some current
  | (call, .executionCompleted j _) =>
      if j = i then if current.isSome ∧ current = call then some none else none
      else some current
  | (call, .executionFailed j _) =>
      if j = i then if current = none ∨ current = call then some none else none
      else some current
  | (_, .executionSkipped _ _) => some current
  | (_, .nodeSelected _) => some current

/-- Whether a call runs a cycle for a record. -/
def Opens (calls : List Call) (i : String) (id : CallId) : Prop :=
  ∃ c ∈ calls, c.id = id ∧ ∃ x, c.running = some x ∧ x.id = i

/-- Whether running calls have the records that an assignment says. -/
def Assigned (s : Assignment) (calls : List Call) : Prop :=
  ∀ c ∈ calls, ∀ x, c.running = some x → s.id? c.node = some x.id

/-- A call that is released runs no cycle any more, and all others go on. -/
theorem opens_release_iff :
    Opens (e.release c).calls i id ↔ Opens e.calls i id ∧ id ≠ c.id := by
  constructor
  · rintro ⟨d, hd, rfl, hrun⟩
    obtain ⟨hd, hne⟩ := mem_others_iff.mp hd
    exact ⟨⟨d, hd, rfl, hrun⟩, hne⟩
  · rintro ⟨⟨d, hd, rfl, hrun⟩, hne⟩
    exact ⟨d, mem_others_iff.mpr ⟨hd, hne⟩, rfl, hrun⟩

/-- A call among those that there are runs a cycle for a record exactly if it
    says so itself. -/
theorem Locked.opens_self_iff (h : e.Locked) (hc : c ∈ e.calls) :
    Opens e.calls i c.id ↔ ∃ x, c.running = some x ∧ x.id = i := by
  constructor
  · rintro ⟨d, hd, hid, hrun⟩
    rwa [eq_of_key h.ids hd hc hid] at hrun
  · intro hrun
    exact ⟨c, hc, rfl, hrun⟩

/-- A call that runs no cycle for the record may end at any time. -/
theorem Locked.opens_release_of_idle (h : e.Locked) (hc : c ∈ e.calls)
    (hidle : ∀ x, c.running = some x → x.id ≠ i) :
    Opens (e.release c).calls i id ↔ Opens e.calls i id := by
  rw [opens_release_iff]
  refine and_iff_left_of_imp ?_
  rintro hopens rfl
  obtain ⟨x, hrun, hx⟩ := (h.opens_self_iff hc).mp hopens
  exact hidle x hrun hx

/-- A call that begins runs a cycle for its record from then on. -/
theorem Locked.opens_begun_iff (h : e.Locked) (hc : c ∈ e.calls)
    (hwait : c.running = none) {x : Record} :
    Opens (e.begun c x).calls i id ↔
      Opens e.calls i id ∨ (id = c.id ∧ x.id = i) := by
  constructor
  · rintro ⟨d, hd, rfl, y, hrun, hy⟩
    rcases mem_begun_iff.mp hd with ⟨hd, -⟩ | ⟨b, -, hid, rfl⟩
    · exact Or.inl ⟨d, hd, rfl, y, hrun, hy⟩
    · cases hrun
      exact Or.inr ⟨hid, hy⟩
  · rintro (⟨d, hd, rfl, y, hrun, hy⟩ | ⟨rfl, hx⟩)
    · have hne : d.id ≠ c.id := fun hid => by
        rw [eq_of_key h.ids hd hc hid, hwait] at hrun
        cases hrun
      exact ⟨d, mem_begun_iff.mpr (Or.inl ⟨hd, hne⟩), rfl, y, hrun, hy⟩
    · exact ⟨_, mem_begun_iff.mpr (Or.inr ⟨c, hc, rfl, rfl⟩), rfl, x, rfl, hx⟩

/-- No cycle is open for the record of a cycle that may begin. -/
theorem Begins.not_opens {x : Record} (hx : e.Begins c x)
    (hfits : s.Fits e.bench.registry) (hassigned : Assigned s e.calls) :
    ¬ Opens e.calls x.id id := by
  rintro ⟨d, hd, -, y, hrun, hy⟩
  -- its call would run for the same node
  have hnode : d.node = c.node :=
    s.apart _ _ _ (hassigned d hd y hrun) (hy ▸ hfits _ x hx.record)
  rw [hx.free d hd hnode] at hrun
  cases hrun

/-- Events that fit what is open before them and what is open after them. -/
def Brackets (i : String) (call : CallId) (events : List Event)
    (calls calls' : List Call) : Prop :=
  ∀ current, (∀ id, current = some id ↔ Opens calls i id) →
    ∃ current', (events.map (fun event => (some call, event))).foldlM
        (Engine.bracket i) current = some current'
      ∧ ∀ id, current' = some id ↔ Opens calls' i id

/-- What happens to a call that runs no cycle leaves open what is open, if its
    events do while no cycle of their record is open. -/
theorem Locked.brackets_idle (h : e.Locked) (hc : c ∈ e.calls)
    (hwait : c.running = none) {events : List Event}
    (hevents : ∀ current, (∀ id, current = some id ↔ Opens e.calls i id) →
      (events.map (fun event => (some c.id, event))).foldlM
        (Engine.bracket i) current = some current) :
    Brackets i c.id events e.calls (e.release c).calls := by
  intro current hopen
  refine ⟨current, hevents current hopen, fun id => ?_⟩
  rw [h.opens_release_of_idle hc (fun x hrun => by simp [hwait] at hrun), hopen]

/-- The event that ends a cycle closes what is open for its record. -/
theorem Locked.brackets_end (h : e.Locked) (hc : c ∈ e.calls) {x : Record}
    (hrun : c.running = some x) {event : Event}
    (hclose : x.id = i →
      bracket i (some c.id) (some c.id, event) = some none)
    (hother : x.id ≠ i →
      ∀ current, bracket i current (some c.id, event) = some current) :
    Brackets i c.id [event] e.calls (e.release c).calls := by
  intro current hopen
  rw [List.map_singleton, List.foldlM_cons]
  by_cases hi : x.id = i
  · have hcurrent : current = some c.id :=
      (hopen _).mpr ((h.opens_self_iff hc).mpr ⟨x, hrun, hi⟩)
    refine ⟨none, ?_, fun id => ?_⟩
    · rw [hcurrent, hclose hi]
      rfl
    · rw [opens_release_iff, ← hopen, hcurrent]
      refine iff_of_false nofun (fun hboth => hboth.2 ?_)
      exact (Option.some.inj hboth.1).symm
  · refine ⟨current, ?_, fun id => ?_⟩
    · rw [hother hi]
      rfl
    · rw [h.opens_release_of_idle hc, hopen]
      intro y hy
      rw [hrun] at hy
      exact Option.some.inj hy ▸ hi

/-- A step begins a cycle only where none is open, and ends the one that is
    open. -/
theorem Effect.brackets {calls : List Call} (h : e.Locked) (hc : c ∈ e.calls)
    (hfits : s.Fits e.bench.registry) (hassigned : Assigned s e.calls)
    (he : Effect e c t calls) : Brackets i c.id t.events e.calls calls := by
  -- a cycle begins for a record only while none is open for it
  have hnone : ∀ {x current}, e.Begins c x → x.id = i →
      (∀ id, current = some id ↔ Opens e.calls i id) → current = none := by
    rintro x current hx rfl hopen
    refine Option.eq_none_iff_forall_ne_some.mpr (fun id hid => ?_)
    exact hx.not_opens hfits hassigned ((hopen id).mp hid)
  cases he with
  | waits => exact fun current hopen => ⟨current, rfl, hopen⟩
  | skips reason hwait => exact h.brackets_idle hc hwait (fun _ _ => rfl)
  | @rejects x failure hx hb =>
      -- what is refused fails without having begun, and may do so only while
      -- no cycle is open
      refine h.brackets_idle hc (hx.free c hc rfl) (fun current hopen => ?_)
      by_cases hi : x.id = i
      · simp [failing, bracket, hi, hnone hx hi hopen]
      · simp [failing, bracket, hi]
  | @begins x backend hx hb =>
      have hwait := hx.free c hc rfl
      intro current hopen
      by_cases hi : x.id = i
      · refine ⟨some c.id, ?_, fun id => ?_⟩
        · simp [beginning, bracket, hi, hnone hx hi hopen]
        · rw [h.opens_begun_iff hc hwait, ← hopen, hnone hx hi hopen]
          simp [hi, eq_comm]
      · refine ⟨current, ?_, fun id => ?_⟩
        · simp [beginning, bracket, hi]
        · rw [h.opens_begun_iff hc hwait, ← hopen]
          simp [hi]
  -- it begins and fails in one step, so nothing is left open
  | @breaks x backend hx hb error =>
      refine h.brackets_idle hc (hx.free c hc rfl) (fun current hopen => ?_)
      by_cases hi : x.id = i
      · simp [beginning, failing, bracket, hi, hnone hx hi hopen]
      · simp [beginning, failing, bracket, hi]
  -- only the call whose cycle is open can end it
  | @fails x hx error =>
      exact h.brackets_end hc hx (fun hi => by simp [bracket, hi])
        (fun hi _ => by simp [bracket, hi])
  | @completes x hx outputs =>
      exact h.brackets_end hc hx (fun hi => by simp [bracket, hi])
        (fun hi _ => by simp [bracket, hi])

/-- Running calls keep to the records of the assignment, as a cycle is begun
    for the record that its node has. -/
theorem Effect.assigned {calls : List Call} (h : e.Locked) (hc : c ∈ e.calls)
    (hfits : s.Fits e.bench.registry) (hassigned : Assigned s e.calls)
    (he : Effect e c t calls) : Assigned s calls := by
  obtain ⟨-, rfl⟩ | ⟨x, backend, hx, -, -, rfl⟩ | ⟨rfl, -⟩ :=
    he.cases_calls hc
  · exact hassigned
  · intro d hd y hrun
    rcases mem_begun_iff.mp hd with ⟨hd, -⟩ | ⟨b, hb, hid, rfl⟩
    · exact hassigned d hd y hrun
    · cases hrun
      rw [eq_of_key h.ids hb hc hid]
      exact hfits _ x hx.record
  · intro d hd y hrun
    exact hassigned d (mem_others_iff.mp hd).1 y hrun

/-- A step makes no new call. -/
theorem Effect.exists_id {calls : List Call} (hc : c ∈ e.calls)
    (he : Effect e c t calls) (hd : d ∈ calls) :
    ∃ b ∈ e.calls, b.id = d.id := by
  obtain ⟨-, rfl⟩ | ⟨x, backend, -, -, -, rfl⟩ | ⟨rfl, -⟩ := he.cases_calls hc
  · exact ⟨d, hd, rfl⟩
  · obtain ⟨b, hb, rfl⟩ := List.mem_map.mp hd
    exact ⟨b, hb, (started_id c x b).symm⟩
  · exact ⟨d, (mem_others_iff.mp hd).1, rfl⟩

/-! ## All calls -/

/-- What the host and the user have been told on the way from one engine to
    another. -/
structure Protocol (e₀ e : Engine) (log : List Entry) : Prop where
  /-- The host was told the events of the log, in order. -/
  events : e.events = e₀.events ++ log.flatMap (fun t => t.told.events)
  /-- The user was told its messages, in order. -/
  notes : e.notes = e₀.notes ++ log.flatMap (fun t => t.told.notes)
  /-- What comes from no call is selections. -/
  selections : ∀ t ∈ log, t.call = none →
    t.told.notes = [] ∧ t.told.outcomes = []
      ∧ ∀ event ∈ t.told.events, ∃ i, event = .nodeSelected i
  /-- A call that has ended was skipped, had no backend, or its cycle began and
      failed or was completed; message and outcome say the same. -/
  ended : ∀ id, e₀.nextCall ≤ id → id < e.nextCall →
    (∀ c ∈ e.calls, c.id ≠ id) → Ended (Saw log id) (account log id)
  /-- A call that has not ended has told that its cycle began, if it has. -/
  pending : ∀ c ∈ e.calls,
    Pending (Saw log c.id) c.running (account log c.id)
  /-- Nobody else has told anything. -/
  silent : ∀ id, id < e₀.nextCall ∨ e.nextCall ≤ id → account log id = {}
  /-- Of each record one cycle ends before another one begins.  The last one
      is open as long as a call runs it. -/
  brackets : ∀ i, ∃ current,
    (stream log).foldlM (bracket i) none = some current
      ∧ ∀ id, current = some id ↔ Opens e.calls i id

/-- What a log and an engine say about each other, if calls keep to the
    protocol. -/
structure Accounted (s : Assignment) (e₀ e : Engine) (log : List Entry) : Prop
    extends Protocol e₀ e log where
  /-- Calls and locks. -/
  sound : e.Sound
  /-- Nodes have the records of the assignment. -/
  fits : s.Fits e.bench.registry
  /-- So have running calls. -/
  assigned : Assigned s e.calls
  /-- Calls are counted. -/
  since : e₀.nextCall ≤ e.nextCall
  /-- The calls that have not ended are new. -/
  calls : ∀ c ∈ e.calls, e₀.nextCall ≤ c.id

variable {log : List Entry}

/-- Before anything has happened an empty log accounts for it. -/
theorem accounted_start (hquiet : e₀.Quiet)
    (hfits : s.Fits e₀.bench.registry) : Accounted s e₀ e₀ [] where
  sound := hquiet.sound
  fits := hfits
  assigned := by simp [Assigned, hquiet.calls]
  events := (List.append_nil _).symm
  notes := (List.append_nil _).symm
  since := Nat.le_refl _
  calls := by simp [hquiet.calls]
  pending := by simp [hquiet.calls]
  ended id hle hlt := absurd hlt (Nat.not_lt.mpr hle)
  silent _ _ := rfl
  brackets i := ⟨none, rfl, by simp [Opens, hquiet.calls]⟩
  selections := by simp

/-- A new call has told nothing. -/
theorem Accounted.arrive (h : Accounted s e₀ e log) (v : Handle) :
    Accounted s e₀ (e.arrive v).2 log := by
  have ha := arrived_arrive h.sound.locked v
  obtain ⟨hevents, hnotes⟩ := e.arrive_told v
  refine ⟨⟨?events, ?notes, ?selections, ?ended, ?pending, ?silent,
    ?brackets⟩, ?sound, ?fits, ?assigned, ?since, ?calls⟩
  case sound => exact ha.sound h.sound
  case fits =>
    rw [arrive_bench]
    exact h.fits
  -- the new call waits, so it runs no cycle
  case assigned =>
    intro d hd x hrun
    rw [ha.calls] at hd
    rcases List.mem_append.mp hd with hd | hd
    · exact h.assigned d hd x hrun
    · rw [List.mem_singleton.mp hd, ha.waits] at hrun
      cases hrun
  case since =>
    rw [ha.nextCall]
    exact Nat.le_succ_of_le h.since
  case calls =>
    intro d hd
    rw [ha.calls] at hd
    rcases List.mem_append.mp hd with hd | hd
    · exact h.calls d hd
    · rw [List.mem_singleton.mp hd, ha.id]
      exact h.since
  case events => rw [hevents, h.events]
  case notes => rw [hnotes, h.notes]
  case selections => exact h.selections
  -- it has told nothing yet
  case pending =>
    intro d hd
    rw [ha.calls] at hd
    rcases List.mem_append.mp hd with hd | hd
    · exact h.pending d hd
    · rw [List.mem_singleton.mp hd, ha.waits,
        h.silent _ (Or.inr (Nat.le_of_eq ha.id.symm))]
      exact .waits
  -- it has not ended, so it is none of those that have
  case ended =>
    intro id hle hlt hnone
    rw [ha.nextCall] at hlt
    have hne : id ≠ e.nextCall := by
      rintro rfl
      exact hnone (e.arrive v).1 (by rw [ha.calls]; simp) ha.id
    refine h.ended id hle (Nat.lt_of_le_of_ne (Nat.le_of_lt_succ hlt) hne)
      (fun d hd => hnone d ?_)
    rw [ha.calls]
    exact List.mem_append_left _ hd
  case silent =>
    intro id hid
    rw [ha.nextCall] at hid
    exact h.silent id (hid.imp_right Nat.le_of_succ_le)
  -- and it opens no cycle
  case brackets =>
    intro i
    obtain ⟨current, hcurrent, hopen⟩ := h.brackets i
    refine ⟨current, hcurrent, fun id => ?_⟩
    rw [hopen, ha.calls]
    constructor
    · rintro ⟨d, hd, hrest⟩
      exact ⟨d, List.mem_append_left _ hd, hrest⟩
    · rintro ⟨d, hd, hid, x, hrun, hx⟩
      rcases List.mem_append.mp hd with hd | hd
      · exact ⟨d, hd, hid, x, hrun, hx⟩
      · rw [List.mem_singleton.mp hd, ha.waits] at hrun
        cases hrun

section Step

variable {u : Entry}

/-- Calls go on as before, but for the one that takes a step. -/
theorem Accounted.pending_step (h : Accounted s e₀ e log) (hc : c ∈ e.calls)
    (hcall : u.call = some c.id)
    (hrecord : u.record = e.bench.registry.recordOf? c.node)
    (hstep : Stepped e c p e' u.told) (hd : d ∈ e'.calls) :
    Pending (Saw (log ++ [u]) d.id) d.running (account (log ++ [u]) d.id) := by
  have hothers : ∀ b ∈ e.calls, b.id ≠ c.id → Pending
      (Saw (log ++ [u]) b.id) b.running (account (log ++ [u]) b.id) := by
    intro b hb hne
    rw [account_append_of_ne log (by simpa [hcall] using hne.symm)]
    exact (h.pending b hb).append u
  obtain ⟨hnone, heq⟩ | ⟨x, backend, hx, hb, hbegin, heq⟩ | ⟨heq, -⟩ :=
    hstep.effect.cases_calls hc <;> rw [heq] at hd
  · rw [account_append_of_silent log (fun _ => hnone)]
    exact (h.pending d hd).append u
  · rcases mem_begun_iff.mp hd with ⟨hd, hne⟩ | ⟨b, hmem, hid, rfl⟩
    · exact hothers d hd hne
    · -- this is the call whose cycle begins
      obtain rfl := eq_of_key h.sound.locked.ids hmem hc hid
      have hbefore := h.pending b hc
      rw [hx.free b hc rfl] at hbefore
      show Pending _ (some x) (account _ b.id)
      rw [account_append_self log hcall, hbefore.eq_empty, Told.empty_append,
        hbegin]
      refine .runs hb ?_
      rw [← hx.record, ← hrecord]
      exact saw_last log hcall (by rw [hbegin]; rfl)
  · obtain ⟨hd, hne⟩ := mem_others_iff.mp hd
    exact hothers d hd hne

/-- Calls stay ended, and the one that takes a step may end with it. -/
theorem Accounted.ended_step (h : Accounted s e₀ e log) (hc : c ∈ e.calls)
    (hcall : u.call = some c.id)
    (hrecord : u.record = e.bench.registry.recordOf? c.node)
    (hstep : Stepped e c p e' u.told) (hle : e₀.nextCall ≤ id)
    (hlt : id < e'.nextCall) (hgone : ∀ d ∈ e'.calls, d.id ≠ id) :
    Ended (Saw (log ++ [u]) id) (account (log ++ [u]) id) := by
  rw [hstep.nextCall] at hlt
  -- the step is not one of another call, whose account stays
  have hothers : id ≠ c.id → (∀ d ∈ e.calls, d.id ≠ id) →
      Ended (Saw (log ++ [u]) id) (account (log ++ [u]) id) := by
    intro hne hold
    rw [account_append_of_ne log (by simpa [hcall] using hne.symm)]
    exact (h.ended id hle hlt hold).append u
  obtain ⟨-, heq⟩ | ⟨x, backend, -, -, -, heq⟩ | ⟨heq, hended⟩ :=
    hstep.effect.cases_calls hc <;> rw [heq] at hgone
  · -- the call waits on
    exact hothers (hgone c hc).symm hgone
  · -- its cycle has begun, and it is still there
    have hold : ∀ d ∈ e.calls, d.id ≠ id := fun d hd => by
      have hne := hgone (started c x d) (List.mem_map_of_mem hd)
      rwa [started_id] at hne
    exact hothers (hold c hc).symm hold
  · -- its cycle has ended, and with it the call
    by_cases hid : id = c.id
    · rw [hid, account_append_self log hcall]
      refine hended _ _ (fun event hevent => ?_) ((h.pending c hc).append u)
      rw [← hrecord]
      exact saw_last log hcall hevent
    · refine hothers hid (fun d hd => ?_)
      by_cases hdc : d.id = c.id
      · rw [hdc]
        exact Ne.symm hid
      · exact hgone d (mem_others_iff.mpr ⟨hd, hdc⟩)

/-- A step of a call is logged. -/
theorem Accounted.step (h : Accounted s e₀ e log) (hc : c ∈ e.calls)
    (hcall : u.call = some c.id)
    (hrecord : u.record = e.bench.registry.recordOf? c.node)
    (hstep : Stepped e c p e' u.told) (hsound : e'.Sound)
    (hregistry : e'.bench.registry = e.bench.registry) :
    Accounted s e₀ e' (log ++ [u]) := by
  have hlocked := h.sound.locked
  refine ⟨⟨?events, ?notes, ?selections, ?ended, ?pending, ?silent,
    ?brackets⟩, ?sound, ?fits, ?assigned, ?since, ?calls⟩
  case sound => exact hsound
  case fits =>
    rw [hregistry]
    exact h.fits
  case assigned => exact hstep.effect.assigned hlocked hc h.fits h.assigned
  case since =>
    rw [hstep.nextCall]
    exact h.since
  case calls =>
    intro d hd
    obtain ⟨b, hb, hid⟩ := hstep.effect.exists_id hc hd
    rw [← hid]
    exact h.calls b hb
  case events =>
    rw [hstep.events, h.events, List.append_assoc, List.flatMap_append,
      List.flatMap_singleton]
  case notes =>
    rw [hstep.notes, h.notes, List.append_assoc, List.flatMap_append,
      List.flatMap_singleton]
  case selections =>
    intro w hw hnone
    rcases List.mem_append.mp hw with hw | hw
    · exact h.selections w hw hnone
    · rw [List.mem_singleton.mp hw, hcall] at hnone
      cases hnone
  case pending =>
    intro d hd
    exact h.pending_step hc hcall hrecord hstep hd
  case ended =>
    intro id hle hlt hgone
    exact h.ended_step hc hcall hrecord hstep hle hlt hgone
  -- the step is one of a call that has been made, and numbers are not given
  -- twice
  case silent =>
    intro id hid
    rw [hstep.nextCall] at hid
    have hne : id ≠ c.id := by
      rintro rfl
      rcases hid with hlt | hle
      · exact Nat.not_le.mpr hlt (h.calls c hc)
      · exact Nat.not_lt.mpr hle (hlocked.counted c hc)
    rw [account_append_of_ne log (by simpa [hcall] using hne.symm)]
    exact h.silent id hid
  -- what is open after the step is what the step has left open
  case brackets =>
    intro i
    obtain ⟨current, hcurrent, hopen⟩ := h.brackets i
    obtain ⟨current', hnext, hopen'⟩ :=
      hstep.effect.brackets hlocked hc h.fits h.assigned current hopen
    refine ⟨current', ?_, hopen'⟩
    rw [stream_append, List.foldlM_append, hcurrent, hcall]
    exact hnext

end Step

/-- What is not told by a call is logged beside the calls. -/
theorem Accounted.aside (h : Accounted s e₀ e log) {u : Entry}
    (hcall : ∀ id, u.call = some id → u.told = {})
    (hnotes : u.told.notes = []) (houtcomes : u.told.outcomes = [])
    (hevents : ∀ event ∈ u.told.events, ∃ i, event = .nodeSelected i) :
    Accounted s e₀ { e with events := e.events ++ u.told.events }
      (log ++ [u]) := by
  have haccount : ∀ id, account (log ++ [u]) id = account log id :=
    fun id => account_append_of_silent log (hcall id)
  refine ⟨⟨?events, ?notes, ?selections, ?ended, ?pending, ?silent,
    ?brackets⟩, ?sound, ?fits, ?assigned, ?since, ?calls⟩
  case sound =>
    exact ⟨h.sound.locked.congr ⟨rfl, rfl, rfl, rfl, rfl⟩, h.sound.states⟩
  case fits => exact h.fits
  case assigned => exact h.assigned
  case since => exact h.since
  case calls => exact h.calls
  case events =>
    rw [List.flatMap_append, List.flatMap_singleton, ← List.append_assoc,
      ← h.events]
  case notes =>
    rw [List.flatMap_append, List.flatMap_singleton, hnotes, List.append_nil]
    exact h.notes
  case selections =>
    intro w hw hnone
    rcases List.mem_append.mp hw with hw | hw
    · exact h.selections w hw hnone
    · rw [List.mem_singleton.mp hw]
      exact ⟨hnotes, houtcomes, hevents⟩
  case pending =>
    intro d hd
    rw [haccount]
    exact (h.pending d hd).append u
  case ended =>
    intro id hle hlt hnone
    rw [haccount]
    exact (h.ended id hle hlt hnone).append u
  case silent =>
    intro id hid
    rw [haccount]
    exact h.silent id hid
  case brackets =>
    intro i
    obtain ⟨current, hcurrent, hopen⟩ := h.brackets i
    refine ⟨current, ?_, hopen⟩
    rw [stream_append, List.foldlM_append, hcurrent]
    show (u.told.events.map _).foldlM (bracket i) current = some current
    clear hopen
    -- selections neither open nor close a cycle
    generalize u.told.events = events at hevents
    induction events with
    | nil => rfl
    | cons event rest ih =>
        obtain ⟨⟨j, rfl⟩, hrest⟩ := List.forall_mem_cons.mp hevents
        exact ih hrest

/-- A step that nobody takes tells nothing. -/
theorem Accounted.nothing (h : Accounted s e₀ e log) (call : Option CallId)
    (x : Option Record) : Accounted s e₀ e (log ++ [⟨call, x, {}⟩]) := by
  have haside := h.aside (u := ⟨call, x, {}⟩) (fun _ _ => rfl) rfl rfl nofun
  rwa [List.append_nil] at haside

/-- A change of the workbench tells nothing, and if nodes keep their records
    the log still accounts for everything. -/
theorem Accounted.change (h : Accounted s e₀ e log) {b : Workbench}
    (hb : s.Fits b.registry) : Accounted s e₀ { e with bench := b } log where
  sound := ⟨h.sound.locked.congr ⟨rfl, rfl, rfl, rfl, rfl⟩, h.sound.states⟩
  fits := hb
  assigned := h.assigned
  events := h.events
  notes := h.notes
  since := h.since
  calls := h.calls
  pending := h.pending
  ended := h.ended
  silent := h.silent
  brackets := h.brackets
  selections := h.selections

/-- A step tells what follows what has been told before. -/
theorem Stepped.told_eq (hstep : Stepped e c p e' t) : e.told e' p = t := by
  rw [told, hstep.events, hstep.notes, List.drop_left, List.drop_left,
    ← hstep.outcome]

/-- Nothing is told when a call arrives. -/
theorem told_arrive (e e' : Engine) (v : Handle) (p : Progress) :
    (e.arrive v).2.told e' p = e.told e' p := by
  rw [told, told, (e.arrive_told v).1, (e.arrive_told v).2]

/-- Where nothing happens nothing is told. -/
theorem told_self (e : Engine) : e.told e .waits = {} := by
  rw [told, List.drop_length, List.drop_length]
  rfl

/-- What a caller asks of a call is logged, also when the call has ended. -/
theorem Accounted.ask (h : Accounted s e₀ e log) {result : Progress × Engine}
    (hnone : e.call? id = none → result = (.waits, e))
    (hsome : ∀ c, e.call? id = some c →
      ∃ t, Stepped e c result.1 result.2 t)
    (hsound : result.2.Sound)
    (hregistry : result.2.bench.registry = e.bench.registry) :
    Accounted s e₀ result.2
      (log ++ [⟨some id, e.recordOfCall? id, e.told result.2 result.1⟩]) := by
  cases hc : e.call? id with
  | none =>
      rw [hnone hc, told_self]
      exact h.nothing _ _
  | some c =>
      obtain ⟨hmem, rfl⟩ := h.sound.locked.call?_eq_some_iff.mp hc
      obtain ⟨t, ht⟩ := hsome c hc
      refine h.step hmem rfl ?_ (ht.told_eq ▸ ht) hsound hregistry
      show e.recordOfCall? c.id = _
      rw [recordOfCall?, hc]
      rfl

/-- The log that is longer by an action accounts for what the action did. -/
theorem Accounted.act (h : Accounted s e₀ e log) (a : Action) :
    Accounted s e₀ (e.perform a) (log ++ [e.entry a]) := by
  have hregistry := (e.perform_same a).registry
  have hsound := h.sound.perform a
  cases a with
  | start v =>
      -- an arrival tells nothing, so the step is all that is logged
      have ha := arrived_arrive h.sound.locked v
      obtain ⟨t, ht⟩ := stepped_start h.sound v
      have htold : (e.entry (.start v)).told = t :=
        (told_arrive e _ v _).symm.trans ht.told_eq
      refine (h.arrive v).step (by rw [ha.calls]; simp) rfl ?_ (htold ▸ ht)
        hsound ?_ <;> rw [arrive_bench]
      · rfl
      · exact hregistry
  | resume id =>
      exact h.ask (fun hc => by rw [resume, hc])
        (fun c hc => stepped_resume h.sound hc) hsound hregistry
  | reply id answer =>
      exact h.ask (fun hc => by rw [reply, hc])
        (fun c hc => stepped_reply hc answer) hsound hregistry
  | select v =>
      show Accounted s e₀ (e.select v).2
        (log ++ [⟨none, none, e.told (e.select v).2 .waits⟩])
      unfold select
      split
      · rename_i x _
        have htold : e.told (e.emit (.nodeSelected x.id)) .waits
            = ⟨[.nodeSelected x.id], [], []⟩ := by
          simp [told, emit, Progress.outcome?]
        rw [htold]
        exact h.aside (u := ⟨none, none, ⟨[.nodeSelected x.id], [], []⟩⟩)
          nofun rfl rfl (by simp)
      · rw [told_self]
        exact h.nothing _ _

/-- By induction over the history: its log accounts for it. -/
theorem History.accounted (hquiet : e₀.Quiet)
    (hfits : s.Fits e₀.bench.registry) (h : History s e₀ e log) :
    Accounted s e₀ e log := by
  induction h with
  | start => exact accounted_start hquiet hfits
  | act _ a ih => exact ih.act a
  | change _ hb ih => exact ih.change hb

/-! ## The protocol -/

/-- Calls keep to the protocol in any order of their steps, as long as nodes
    keep their records. -/
theorem History.protocol (hquiet : e₀.Quiet)
    (hfits : s.Fits e₀.bench.registry) (h : History s e₀ e log) :
    Protocol e₀ e log :=
  (h.accounted hquiet hfits).toProtocol

/-- A sum, a node without a backend, and a trigger of the sum while it runs. -/
theorem protocol_sum :
    let w : Workbench :=
      ⟨{}, { templates := Table.empty.insert "math/sum" Template.sum }⟩
    let e₀ : Engine :=
      { bench := ((w.addNode "math/sum").2.addNode "t").2, overlap := .drop }
    let e₁ := e₀.perform (.start 1)
    let e₂ := e₁.perform (.start 2)
    let e₃ := e₂.perform (.start 1)
    let answer : Action := .reply 0 (.ok (.single (.bool true)))
    let log := [e₀.entry (.start 1), e₁.entry (.start 2), e₂.entry (.start 1),
      e₃.entry answer]
    Protocol e₀ (e₃.perform answer) log
      ∧ account log 0
        = ⟨[.executionStarted "1" "host-script",
              .executionCompleted "1" [some (.bool true)]], [],
            [.completed [some (.bool true)]]⟩
      ∧ account log 1
        = ⟨[.executionFailed "2" "Unknown backend: ''"],
            ["t failed: Unknown backend: ''"], [.failed "Unknown backend: ''"]⟩
      ∧ account log 2
        = ⟨[.executionSkipped "1" "already running"], [],
            [.skipped "already running"]⟩ := by
  -- the third call finds the first one still running, and is dropped
  intro w e₀ e₁ e₂ e₃ answer log
  have htied : e₀.bench.registry.Tied :=
    ((Registry.tied_clear w.registry).add 1 "math/sum").add 2 "t"
  have h : History (.ofRegistry htied) e₀ (e₃.perform answer) log :=
    (((History.start.act (.start 1)).act (.start 2)).act (.start 1)).act answer
  exact ⟨h.protocol ⟨rfl, rfl, fun _ => rfl⟩ (Assignment.fits_ofRegistry htied),
    by decide +kernel, by decide +kernel, by decide +kernel⟩

end Engine
end NodeFlow
