import NodeFlow.Backend.Request
import NodeFlow.Config
import NodeFlow.Event
import NodeFlow.Graph.Order
import NodeFlow.Workbench

/-! # The engine

    A trigger of a node is a call.  A call takes the lock that a table keeps
    for its node, or puts a new one there, and holds on to it until it ends.
    A lock is owned by one call at a time, in the order of their arrival.
    Under one policy a call that finds its lock owned is skipped, under the
    other it waits.  A call that ends takes its lock off the table if nobody
    else refers to it.

    The call that holds the lock runs one cycle: it takes the inputs of the
    node, asks a backend, and writes the outputs or clears them.  Between the
    request and the reply other calls may run; a step that touches the engine
    is never interrupted.  So a call advances in two steps, `enter` up to the
    request and `reply` from there to the outcome. -/

namespace NodeFlow

/-! ## Outcomes -/

/-- What one trigger of a node came to. -/
inductive Outcome where
  /-- The outputs were written. -/
  | completed (outputs : List (Option Json))
  /-- The outputs were cleared. -/
  | failed (error : String)
  /-- Nothing ran. -/
  | skipped (reason : String)
  deriving DecidableEq, Repr

namespace Outcome

/-- The name of the kind of an outcome. -/
def status : Outcome → String
  | .completed _ => "completed"
  | .failed _ => "failed"
  | .skipped _ => "skipped"

end Outcome

/-- Where a node is in its cycle. -/
inductive CycleState where
  /-- Not in a cycle. -/
  | idle
  /-- Taking its inputs. -/
  | collecting
  /-- Waiting for a backend. -/
  | executing
  /-- Writing its outputs. -/
  | resolving
  deriving DecidableEq, Repr, Inhabited

/-- The name of a state. -/
def CycleState.name : CycleState → String
  | .idle => "Idle"
  | .collecting => "Collecting"
  | .executing => "Executing"
  | .resolving => "Resolving"

/-! ## Calls -/

/-- A call on a node, by number. -/
abbrev CallId : Type := Nat

/-- A lock, by number. -/
abbrev LockId : Type := Nat

/-- A trigger of a node that has no outcome yet. -/
structure Call where
  /-- The number. -/
  id : CallId
  /-- The node. -/
  node : Handle
  /-- The lock that the call holds on to. -/
  lock : LockId
  /-- The record that the cycle runs for, once it has started. -/
  running : Option Record := none
  deriving DecidableEq, Repr, Inhabited

/-- What a call has come to after a step. -/
inductive Progress where
  /-- Another call holds the lock. -/
  | waits
  /-- A backend is asked. -/
  | asks (request : Request)
  /-- The call has ended. -/
  | ends (outcome : Outcome)
  deriving DecidableEq, Repr

/-- Nodes, their records and the calls on them. -/
structure Engine where
  /-- Graph and records. -/
  bench : Workbench := {}
  /-- The surroundings. -/
  surroundings : Surroundings := {}
  /-- What happens to overlapping triggers. -/
  overlap : OverlapPolicy := .drop
  /-- The calls that have not ended, in the order of their arrival. -/
  calls : List Call := []
  /-- The lock that a new call on a node takes. -/
  locks : Table Handle LockId := Table.empty
  /-- Where each node in a cycle is. -/
  states : Table Handle CycleState := Table.empty
  /-- The number of the next call. -/
  nextCall : CallId := 0
  /-- The number of the next lock. -/
  nextLock : LockId := 0
  /-- What the host was told, first things first. -/
  events : List Event := []
  /-- Messages to the user, first things first. -/
  notes : List String := []
  deriving DecidableEq, Repr, Inhabited

namespace Engine

/-- An engine with the settings given. -/
def ofConfig (c : EngineConfig) (platform : String) (bench : Workbench) :
    Engine :=
  { bench := bench
    surroundings := ⟨platform, c.shellProgram⟩
    overlap := c.overlap }

/-- Where a node is. -/
def state (e : Engine) (node : Handle) : CycleState :=
  (e.states.get? node).getD .idle

/-- Note where a node is. -/
def setState (e : Engine) (node : Handle) (s : CycleState) : Engine :=
  { e with
    states :=
      match s with
      | .idle => e.states.erase node
      | s => e.states.insert node s }

/-- Tell the host something. -/
def emit (e : Engine) (event : Event) : Engine :=
  { e with events := e.events ++ [event] }

/-- Tell the user something. -/
def notify (e : Engine) (note : String) : Engine :=
  { e with notes := e.notes ++ [note] }

/-- Change the graph. -/
def withGraph (e : Engine) (g : Graph) : Engine :=
  { e with bench := { e.bench with graph := g } }

/-! ## Inputs and outputs of a cycle -/

/-- The name of an input by its place. -/
def inputKey (i : Nat) : String := "input_" ++ toString i

/-- The values that reach the inputs of a node, by place. -/
def collectInputs (g : Graph) (node : Handle) (r : Record) :
    Table String Json :=
  let count := ((g.inputs? node).getD r.liveInputs).length
  Table.ofList
    ((List.range count).filterMap
      (fun i => (g.inputData? node i).map (fun v => (inputKey i, v))))

/-- Write values to the outputs from place `i` on, as far as there are
    outputs. -/
def writeFrom (g : Graph) (node : Handle) (i : Nat) :
    List (Option Json) → Graph
  | [] => g
  | v :: rest =>
      writeFrom (Workbench.attempt g (g.setOutputData node i v)) node (i + 1)
        rest

/-- Write the outputs of a node and mark it for drawing. -/
def writeOutputs (e : Engine) (node : Handle) (outputs : List (Option Json)) :
    Engine :=
  e.withGraph ((writeFrom e.bench.graph node 0 outputs).mark node)

/-! ## How a call ends -/

/-- Nothing runs for a trigger. -/
def skip (e : Engine) (node : Handle) (reason : String) :
    Outcome × Engine :=
  let id := ((e.bench.registry.recordOf? node).map Record.id).getD ""
  (.skipped reason, e.emit (.executionSkipped id reason))

/-- A cycle fails: the outputs are cleared and the user is told. -/
def fail (e : Engine) (node : Handle) (r : Record) (detail : String) :
    Outcome × Engine :=
  let cleared := e.writeOutputs node (r.outputs.map (fun _ => none))
  (.failed detail,
    (cleared.notify (r.title ++ " failed: " ++ detail)).emit
      (.executionFailed r.id detail))

/-- A backend has answered: write the outputs, or fail. -/
def resolve (e : Engine) (node : Handle) (r : Record) (reply : Reply) :
    Outcome × Engine :=
  match reply with
  | .error failure => e.fail node r failure.message
  | .ok result =>
      let e := e.setState node .resolving
      match result.error? with
      | some detail => e.fail node r detail
      | none =>
          let outputs := result.resolve r.outputs
          (.completed outputs,
            (e.writeOutputs node outputs).emit
              (.executionCompleted r.id outputs))

/-! ## Locks -/

/-- The lock for a new call on a node. -/
def lockFor (e : Engine) (node : Handle) : LockId × Engine :=
  match e.locks.get? node with
  | some lock => (lock, e)
  | none =>
      (e.nextLock,
        { e with
          locks := e.locks.insert node e.nextLock
          nextLock := e.nextLock + 1 })

/-- The call that owns a lock: of those that hold on to it, the one that came
    first. -/
def owner? (e : Engine) (lock : LockId) : Option Call :=
  e.calls.find? (fun c => c.lock == lock)

/-- Whether a call owns its lock. -/
def ownsLock (e : Engine) (c : Call) : Bool :=
  (e.owner? c.lock).map Call.id == some c.id

/-- How often a lock is referred to: from the table and by calls. -/
def references (e : Engine) (lock : LockId) : Nat :=
  e.locks.values.count lock + (e.calls.map Call.lock).count lock

/-- Take a call off the list.  If its lock is the one on the table and is
    referred to only from there and by this call, it goes off the table. -/
def release (e : Engine) (c : Call) : Engine :=
  { e with
    calls := e.calls.filter (fun d => d.id != c.id)
    locks :=
      if e.locks.get? c.node = some c.lock ∧ e.references c.lock = 2 then
        e.locks.erase c.node
      else e.locks }

/-- A call ends with an outcome. -/
def close (c : Call) (ending : Outcome × Engine) : Progress × Engine :=
  (.ends ending.1, ending.2.release c)

/-! ## The steps of a call -/

/-- The cycle of a record up to the request. -/
def prepare (e : Engine) (c : Call) (r : Record) : Progress × Engine :=
  let e := e.setState c.node .collecting
  let inputs := collectInputs e.bench.graph c.node r
  let e := e.setState c.node .executing
  let failed (e : Engine) (failure : Failure) : Progress × Engine :=
    let (outcome, e) := e.fail c.node r failure.message
    close c (outcome, e.setState c.node .idle)
  match Backend.select (r.codeType?.getD "") with
  | .error failure => failed e failure
  | .ok backend =>
      let e := e.emit (.executionStarted r.id backend.name)
      match Request.ofCode e.surroundings backend r.code inputs with
      | .error failure => failed e failure
      | .ok request =>
          (.asks request,
            { e with
              calls :=
                e.calls.map (fun d =>
                  if d.id = c.id then { d with running := some r } else d) })

/-- Let a call go on that has not started its cycle. -/
def enter (e : Engine) (c : Call) : Progress × Engine :=
  if e.ownsLock c then
    match e.bench.registry.recordOf? c.node with
    | none => close c (e.skip c.node "no record for node")
    | some r => e.prepare c r
  else (.waits, e)

/-- The engine with a new call on a node, and the call. -/
def arrive (e : Engine) (node : Handle) : Call × Engine :=
  let (lock, e) := e.lockFor node
  let c : Call := { id := e.nextCall, node := node, lock := lock }
  (c, { e with calls := e.calls ++ [c], nextCall := e.nextCall + 1 })

/-- A new call on a node. -/
def start (e : Engine) (node : Handle) : CallId × Progress × Engine :=
  let (c, e) := e.arrive node
  (c.id,
    if e.overlap = .drop ∧ ¬ e.ownsLock c then
      close c (e.skip node "already running")
    else e.enter c)

/-- The call with a number. -/
def call? (e : Engine) (id : CallId) : Option Call :=
  e.calls.find? (fun c => c.id == id)

/-- Let a call go on that waited for its lock. -/
def resume (e : Engine) (id : CallId) : Progress × Engine :=
  match e.call? id with
  | some { id, node, lock, running := none } => e.enter { id, node, lock }
  | _ => (.waits, e)

/-- Hand a call the reply to its request. -/
def reply (e : Engine) (id : CallId) (answer : Reply) : Progress × Engine :=
  match e.call? id with
  | some { id, node, lock, running := some r } =>
      let (outcome, e) := e.resolve node r answer
      close { id, node, lock, running := some r }
        (outcome, e.setState node .idle)
  | _ => (.waits, e)

/-- The call that owns the lock of a node. -/
def holder? (e : Engine) (node : Handle) : Option Call :=
  (e.locks.get? node).bind e.owner?

/-! ## One call at a time -/

/-- Run a call on a node to its end.  There is no outcome when another call
    on the node has not ended and this one would have to wait for it. -/
def execute {m : Type → Type} [Monad m] (respond : Request → m Reply)
    (e : Engine) (node : Handle) : m (Option Outcome × Engine) := do
  match e.start node with
  | (_, .ends outcome, e) => pure (some outcome, e)
  | (_, .waits, e) => pure (none, e)
  | (id, .asks request, e) =>
      match e.reply id (← respond request) with
      | (.ends outcome, e) => pure (some outcome, e)
      | (_, e) => pure (none, e)

/-- Run nodes one after the other, whether they fail or not. -/
def executeEach {m : Type → Type} [Monad m] (respond : Request → m Reply)
    (e : Engine) : List Handle → m (List (Handle × Outcome) × Engine)
  | [] => pure ([], e)
  | node :: rest => do
      let (outcome, e) ← execute respond e node
      let (others, e) ← executeEach respond e rest
      pure ((outcome.map (fun o => (node, o))).toList ++ others, e)

/-- Run every node that has a record, in the order of execution. -/
def executeAll {m : Type → Type} [Monad m] (respond : Request → m Reply)
    (e : Engine) : m (List (Handle × Outcome) × Engine) :=
  executeEach respond e
    (e.bench.graph.order.filter
      (fun node => (e.bench.registry.recordOf? node).isSome))

/-! ## Selection -/

/-- Publish the selection of a node.  Nothing runs.  Answers what observers
    hear: the identifier of the record, if there is one. -/
def select (e : Engine) (node : Option Handle) : Option String × Engine :=
  match node.bind e.bench.registry.recordOf? with
  | some r => (some r.id, e.emit (.nodeSelected r.id))
  | none => (none, e)

end Engine
end NodeFlow
