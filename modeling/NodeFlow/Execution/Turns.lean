import NodeFlow.Execution.Rehearsal

/-! # Taking turns

    Several calls run together on one thread.  A call runs until it has to
    wait: for the lock of its node, for a script, or because the backend that
    it asks gives up its turn, as often as `pauses` says, before it answers.

    Calls whose turn has come form a queue.  Calls that gave up their turn
    rest until the queue is empty; then all of them get ready again, the last
    to rest first.  Only when nobody rests either, the call that has waited
    longest for its script gets the result. -/

namespace NodeFlow

/-- Calls that run together. -/
structure Turns where
  /-- The engine. -/
  engine : Engine
  /-- The prepared answers. -/
  stage : Rehearsal
  /-- Evaluates scripts. -/
  runScript : String → Table String Json → Reply
  /-- How often a backend gives up its turn before it answers. -/
  pauses : Nat
  /-- The calls whose turn has come, next first. -/
  ready : List CallId := []
  /-- The calls that gave up their turn, last first. -/
  resting : List CallId := []
  /-- The calls that wait for a script, first things first. -/
  scripts : List CallId := []
  /-- How often the backend of a call will still give up its turn. -/
  pausesLeft : Table CallId Nat := Table.empty
  /-- What each call has asked. -/
  asked : Table CallId Request := Table.empty
  /-- The outcomes so far. -/
  outcomes : Table CallId Outcome := Table.empty

namespace Turns

/-- Give up the turn of a call whose backend does so `left` more times after
    this one. -/
def rest (t : Turns) (id : CallId) (left : Nat) : Turns :=
  { t with
    resting := id :: t.resting
    pausesLeft := t.pausesLeft.insert id left }

/-- A call has ended: note the outcome, and get the next call on its node
    ready, if it waits for the lock. -/
def finish (t : Turns) (id : CallId) (node : Handle) (outcome : Outcome) :
    Turns :=
  let woken :=
    match t.engine.holder? node with
    | some { id := next, running := none, .. } => [next]
    | _ => []
  { t with
    outcomes := t.outcomes.insert id outcome
    ready := t.ready ++ woken }

/-- Answer the request of a call. -/
def answer (t : Turns) (id : CallId) (node : Handle) (request : Request) :
    Turns :=
  let (reply, stage) := t.stage.answer t.runScript request
  match t.engine.reply id reply with
  | (.ends outcome, engine) =>
      ({ t with stage := stage, engine := engine } : Turns).finish id node
        outcome
  | (_, engine) => { t with stage := stage, engine := engine }

/-- Go on after a step of a call. -/
def proceed (t : Turns) (id : CallId) (node : Handle) : Progress → Turns
  | .waits => t
  | .ends outcome => t.finish id node outcome
  | .asks request =>
      let t :=
        { t with
          stage := t.stage.note request
          asked := t.asked.insert id request }
      match request, t.pauses with
      | .script _ _, _ => { t with scripts := t.scripts ++ [id] }
      | _, 0 => t.answer id node request
      | _, left + 1 => t.rest id left

/-- Begin a call on a node. -/
def begin (t : Turns) (node : Handle) : CallId × Turns :=
  let (id, progress, engine) := t.engine.start node
  (id, ({ t with engine := engine } : Turns).proceed id node progress)

/-- Begin calls on nodes, one after the other. -/
def beginEach (t : Turns) : List Handle → List CallId × Turns
  | [] => ([], t)
  | node :: others =>
      let (id, t) := t.begin node
      let (ids, t) := t.beginEach others
      (id :: ids, t)

/-- The turn of a call. -/
def turn (t : Turns) (id : CallId) : Turns :=
  match t.engine.call? id with
  | none => t
  | some c =>
      match t.asked.get? id with
      | none =>
          let (progress, engine) := t.engine.resume id
          ({ t with engine := engine } : Turns).proceed id c.node progress
      | some request =>
          match t.pausesLeft.get? id with
          | some (left + 1) => t.rest id left
          | _ => t.answer id c.node request

/-- The next turn, if anybody is left. -/
def step (t : Turns) : Option Turns :=
  match t.ready, t.resting, t.scripts with
  | id :: ready, _, _ => some (({ t with ready := ready } : Turns).turn id)
  | [], id :: resting, _ =>
      some { t with ready := id :: resting, resting := [] }
  | [], [], id :: scripts => some { t with ready := [id], scripts := scripts }
  | [], [], [] => none

/-- Up to `fuel` turns. -/
def run : Nat → Turns → Turns
  | 0, t => t
  | fuel + 1, t =>
      match t.step with
      | some t' => run fuel t'
      | none => t

/-- More turns than calls on `count` nodes can take. -/
def enough (count pauses : Nat) : Nat := 2 * count * (pauses + 4)

/-- Begin a call on each node of a list and run all of them to their end.
    Answers where the nodes were when each call had run as far as it could
    at first, and the outcomes. -/
def join (t : Turns) (nodes : List Handle) :
    List CycleState × List (Option Outcome) × Turns :=
  let (ids, begun) := t.beginEach nodes
  let during := nodes.map begun.engine.state
  let done := run (enough nodes.length t.pauses) begun
  (during, ids.map done.outcomes.get?, done)

end Turns
end NodeFlow
