import NodeFlow.Proofs.Execution.Writes

/-! # What a cycle does

    A cycle takes the inputs of its node, asks a backend and writes the
    outputs.  `evaluate` is what it comes to, as a function of the inputs and
    of what backends reply.  `prepare_cases` and `resolve_settle` say all that
    the two halves of a cycle do, the one up to the request and the other from
    the reply on; later proofs never open them. -/

namespace NodeFlow

/-- What the outputs of a node hold after an outcome. -/
def Outcome.latched (count : Nat) : Outcome → List (Option Json)
  | .completed outputs => outputs
  | _ => List.replicate count none

namespace Engine

variable {e e' : Engine} {c d : Call} {v u : Handle}

/-- What a reply comes to. -/
def settle (x : Record) : Reply → Outcome
  | .error failure => .failed failure.message
  | .ok result =>
      match result.error? with
      | some detail => .failed detail
      | none => .completed (result.resolve x.outputs)

/-- What the code of a record comes to on its inputs. -/
def evaluate (s : Surroundings) (respond : Request → Reply) (x : Record)
    (inputs : Table String Json) : Outcome :=
  match Backend.select (x.codeType?.getD "") with
  | .error failure => .failed failure.message
  | .ok backend =>
      match Request.ofCode s backend x.code inputs with
      | .error failure => .failed failure.message
      | .ok request => settle x (respond request)

/-- A reply fails a cycle, or completes it with one value for each output of
    the record. -/
theorem settle_cases (x : Record) (reply : Reply) :
    (∃ detail, settle x reply = .failed detail)
      ∨ ∃ outputs, settle x reply = .completed outputs
          ∧ outputs.length = x.outputs.length := by
  unfold settle
  cases reply with
  | error failure => exact Or.inl ⟨failure.message, rfl⟩
  | ok result =>
      simp only
      cases result.error? with
      | some detail => exact Or.inl ⟨detail, rfl⟩
      | none => exact Or.inr ⟨_, rfl, result.length_resolve x.outputs⟩

/-- Code fails or completes with a value or none for every output. -/
theorem evaluate_cases (s : Surroundings) (respond : Request → Reply)
    (x : Record) (inputs : Table String Json) :
    (∃ detail, evaluate s respond x inputs = .failed detail)
      ∨ ∃ outputs, evaluate s respond x inputs = .completed outputs
          ∧ outputs.length = x.outputs.length := by
  unfold evaluate
  cases Backend.select (x.codeType?.getD "") with
  | error failure => exact Or.inl ⟨failure.message, rfl⟩
  | ok backend =>
      simp only
      cases Request.ofCode s backend x.code inputs with
      | error failure => exact Or.inl ⟨failure.message, rfl⟩
      | ok request => exact settle_cases x (respond request)

/-- Whatever a cycle comes to, it has one value for each output of the
    record. -/
theorem length_latched_evaluate (s : Surroundings) (respond : Request → Reply)
    (x : Record) (inputs : Table String Json) :
    ((evaluate s respond x inputs).latched x.outputs.length).length
      = x.outputs.length := by
  obtain ⟨detail, heq⟩ | ⟨outputs, heq, hlength⟩ :=
    evaluate_cases s respond x inputs
  · simp [heq, Outcome.latched]
  · rw [heq]
    exact hlength

/-! ## What a cycle leaves alone -/

/-- Whether two engines have the same calls, locks and surroundings. -/
structure SameCalls (e e' : Engine) : Prop where
  /-- The calls. -/
  calls : e'.calls = e.calls
  /-- The locks. -/
  locks : e'.locks = e.locks
  /-- The next number of a call. -/
  nextCall : e'.nextCall = e.nextCall
  /-- The next number of a lock. -/
  nextLock : e'.nextLock = e.nextLock
  /-- The surroundings. -/
  surroundings : e'.surroundings = e.surroundings

@[simp] theorem setState_bench (e : Engine) (v : Handle) (s : CycleState) :
    (e.setState v s).bench = e.bench := rfl

@[simp] theorem setState_surroundings (e : Engine) (v : Handle)
    (s : CycleState) : (e.setState v s).surroundings = e.surroundings := rfl

@[simp] theorem emit_surroundings (e : Engine) (event : Event) :
    (e.emit event).surroundings = e.surroundings := rfl

theorem state_setState (e : Engine) (v u : Handle) (s : CycleState) :
    (e.setState v s).state u = if u = v then s else e.state u := by
  unfold setState state
  cases s <;> simp only [Table.get?_erase, Table.get?_insert] <;> split <;> rfl

/-! ## The second half -/

/-- A failure clears the outputs of its node. -/
theorem fail_bench (e : Engine) (v : Handle) (x : Record) (detail : String) :
    (e.fail v x detail).2.bench
      = (e.writeOutputs v
          ((Outcome.failed detail).latched x.outputs.length)).bench := by
  show (e.writeOutputs v (x.outputs.map (fun _ => none))).bench = _
  rw [List.map_const']
  rfl

/-- From a reply on a cycle comes to what the reply comes to and writes that
    to its outputs. -/
theorem resolve_settle (e : Engine) (v : Handle) (x : Record) (reply : Reply) :
    (e.resolve v x reply).1 = settle x reply
      ∧ e.SameCalls (e.resolve v x reply).2
      ∧ (∀ u, u ≠ v → (e.resolve v x reply).2.state u = e.state u)
      ∧ (e.resolve v x reply).2.bench
        = (e.writeOutputs v
            ((settle x reply).latched x.outputs.length)).bench := by
  unfold resolve settle
  cases reply with
  | error failure =>
      exact ⟨rfl, ⟨rfl, rfl, rfl, rfl, rfl⟩, fun _ _ => rfl,
        e.fail_bench v x failure.message⟩
  | ok result =>
      have hstate : ∀ u, u ≠ v →
          (e.setState v .resolving).state u = e.state u := fun u hu => by
        rw [state_setState, if_neg hu]
      simp only
      cases result.error? with
      | some detail =>
          exact ⟨rfl, ⟨rfl, rfl, rfl, rfl, rfl⟩, hstate,
            (e.setState v .resolving).fail_bench v x detail⟩
      | none => exact ⟨rfl, ⟨rfl, rfl, rfl, rfl, rfl⟩, hstate, rfl⟩

/-! ## The first half -/

/-- A call, marked as running for a record if it is the one given. -/
def started (c : Call) (r : Record) (d : Call) : Call :=
  if d.id = c.id then { d with running := some r } else d

@[simp] theorem started_id (c : Call) (r : Record) (d : Call) :
    (started c r d).id = d.id := by
  unfold started
  split <;> rfl

@[simp] theorem started_node (c : Call) (r : Record) (d : Call) :
    (started c r d).node = d.node := by
  unfold started
  split <;> rfl

@[simp] theorem started_lock (c : Call) (r : Record) (d : Call) :
    (started c r d).lock = d.lock := by
  unfold started
  split <;> rfl

/-- The engine once a call runs for a record. -/
def begun (e : Engine) (c : Call) (r : Record) : Engine :=
  { e with calls := e.calls.map (started c r) }

/-- The engine while the inputs of a node have been taken. -/
def asking (e : Engine) (v : Handle) : Engine :=
  (e.setState v .collecting).setState v .executing

/-- The engine after a cycle that fails before the request. -/
def failed (e : Engine) (v : Handle) (x : Record) (detail : String) : Engine :=
  (e.fail v x detail).2.setState v .idle

/-- A cycle that fails before the request leaves its node idle. -/
theorem state_failed (e : Engine) (v u : Handle) (x : Record)
    (detail : String) :
    (e.failed v x detail).state u = if u = v then .idle else e.state u :=
  state_setState _ v u .idle

/-- Up to the request a cycle either fails, whatever backends would reply, and
    its node is idle again; or a backend is asked, and the cycle comes to what
    the reply comes to. -/
theorem prepare_cases (e : Engine) (c : Call) (x : Record) :
    ∃ e', e.SameCalls e' ∧ (∀ u, u ≠ c.node → e'.state u = e.state u)
      ∧ ((∃ outcome, e'.state c.node = .idle
            ∧ e.prepare c x = Engine.close c (outcome, e')
            ∧ e'.bench
              = (e.writeOutputs c.node
                  (outcome.latched x.outputs.length)).bench
            ∧ ∀ respond, evaluate e.surroundings respond x
                (collectInputs e.bench.graph c.node x) = outcome)
        ∨ ∃ request, e'.state c.node = .executing
            ∧ e.prepare c x = (.asks request, e'.begun c x)
            ∧ e'.bench = e.bench
            ∧ ∀ respond, evaluate e.surroundings respond x
                (collectInputs e.bench.graph c.node x)
              = settle x (respond request)) := by
  have hasking : ∀ u, u ≠ c.node → (e.asking c.node).state u = e.state u :=
    fun u hu => by
      rw [asking, state_setState, if_neg hu, state_setState, if_neg hu]
  unfold prepare evaluate
  simp only
  cases Backend.select (x.codeType?.getD "") with
  | error failure =>
      -- there is no such backend, so no event says that a cycle has started
      refine ⟨(e.asking c.node).failed c.node x failure.message,
        ⟨rfl, rfl, rfl, rfl, rfl⟩, fun u hu => ?_,
        Or.inl ⟨.failed failure.message, ?_, rfl,
          (e.asking c.node).fail_bench c.node x failure.message,
          fun _ => rfl⟩⟩
      · rw [state_failed, if_neg hu, hasking u hu]
      · rw [state_failed, if_pos rfl]
  | ok backend =>
      simp only
      cases hrequest : Request.ofCode e.surroundings backend x.code
          (collectInputs e.bench.graph c.node x) with
      | error failure =>
          -- the code has no request on these inputs
          refine ⟨((e.asking c.node).emit
              (.executionStarted x.id backend.name)).failed c.node x
                failure.message,
            ⟨rfl, rfl, rfl, rfl, rfl⟩, fun u hu => ?_,
            Or.inl ⟨.failed failure.message, ?_, ?_,
              (e.asking c.node).fail_bench c.node x failure.message,
              fun _ => rfl⟩⟩
          · rw [state_failed, if_neg hu]
            exact hasking u hu
          · rw [state_failed, if_pos rfl]
          · rw [emit_surroundings, setState_surroundings,
              setState_surroundings, setState_bench, hrequest]
            rfl
      | ok request =>
          refine ⟨(e.asking c.node).emit
              (.executionStarted x.id backend.name),
            ⟨rfl, rfl, rfl, rfl, rfl⟩, hasking,
            Or.inr ⟨request, ?_, ?_, rfl, fun _ => rfl⟩⟩
          · show (e.asking c.node).state c.node = .executing
            rw [asking, state_setState, if_pos rfl]
          · rw [emit_surroundings, setState_surroundings,
              setState_surroundings, setState_bench, hrequest]
            rfl

end Engine
end NodeFlow
