import NodeFlow.Editor.Desk
import NodeFlow.Execution.Engine
import NodeFlow.Host.Argument
import NodeFlow.Host.WorkflowFile
import NodeFlow.Program

/-! # A host

    A host holds one workflow.  It reads and writes workflow files, adds and
    links nodes, shows and changes them the way an editor does, and runs
    them. -/

namespace NodeFlow

/-- A workflow with the settings to work on it. -/
structure Host where
  /-- The settings. -/
  config : AppConfig := {}
  /-- The workflow. -/
  bench : Workbench := {}
  /-- The time that saved code is stamped with. -/
  clock : Timestamp
  deriving DecidableEq, Repr

/-- What a run came to for one node. -/
structure NodeReport where
  /-- The identifier of the node. -/
  id : String
  /-- The title of the node. -/
  title : String
  /-- How the run ended. -/
  status : String
  /-- The values of the outputs, by name. -/
  outputs : Table String Json := Table.empty
  /-- Why there are no outputs. -/
  message : Option String := none
  deriving DecidableEq, Repr, Inhabited

namespace NodeReport

/-- The values of outputs by the name of their port, as far as there are
    values. -/
def namedOutputs (ports : List Port) (values : List (Option Json)) :
    Table String Json :=
  Table.ofList
    ((ports.zip values).filterMap
      (fun (port, value) => value.map (fun v => (port.name, v))))

/-- The report on the outcome of a node. -/
def ofOutcome (r : Record) (o : Outcome) : NodeReport :=
  let report : NodeReport :=
    { id := r.id, title := r.title, status := o.status }
  match o with
  | .completed values =>
      { report with outputs := namedOutputs r.outputs values }
  | .failed error => { report with message := some error }
  | .skipped reason => { report with message := some reason }

/-- Encode a report.  Outputs and message are left out when there are
    none. -/
def toJson (r : NodeReport) : Json :=
  .obj
    ([("id", .str r.id), ("title", .str r.title), ("status", .str r.status)]
      ++ (if r.outputs.isEmpty then []
        else [("outputs", .ofTable r.outputs)])
      ++ (r.message.map (fun text => ("message", Json.str text))).toList)

end NodeReport

namespace Host

/-- The record with an identifier, unless it is removed. -/
def liveRecord? (h : Host) (id : String) : Option Record :=
  (h.bench.registry.record? id).filter (fun r => !r.removed)

/-! ## Files -/

/-- Replace the workflow by a snapshot. -/
def restore (h : Host) (s : Snapshot) : Except HostError Host :=
  match h.bench.configure s with
  | (.ok (), bench) => .ok { h with bench := bench }
  | (.error e, _) => .error (.model e)

/-- A host with the workflow of a file. -/
def load {m : Type → Type} [Monad m] [Files m] (config : AppConfig)
    (clock : Timestamp) (path : String) : m (Except HostError Host) := do
  match ← WorkflowFile.load path with
  | .error e => pure (.error (.file e))
  | .ok s => pure (restore { config := config, clock := clock } s)

/-- Write the workflow to a file. -/
def save {m : Type → Type} [Monad m] [Files m] (h : Host) (path : String) :
    m (Except HostError Unit) := do
  match ← WorkflowFile.save path h.bench.snapshot with
  | .error e => pure (.error (.file e))
  | .ok () => pure (.ok ())

/-! ## Nodes and links -/

/-- Add a node of every type in turn; answers their identifiers. -/
def addEach (b : Workbench) : List String → List String × Workbench
  | [] => ([], b)
  | nodeType :: rest =>
      let (r, b) := b.addNode nodeType
      let (ids, b) := addEach b rest
      (r.id :: ids, b)

/-- Add a node of every type in turn, unless there is one without a
    template. -/
def addNodes (h : Host) (nodeTypes : List String) :
    Except HostError (List String × Host) :=
  match nodeTypes.find?
      (fun t => !h.bench.registry.templates.contains t) with
  | some unknown => .error (.unknownNodeType unknown)
  | none =>
      let (ids, bench) := addEach h.bench nodeTypes
      .ok (ids, { h with bench := bench })

/-- The live node of a record. -/
def handle (h : Host) (id : String) : Except HostError Handle :=
  match h.bench.registry.handleOf? id with
  | some node => .ok node
  | none => .error (.unknownNode id)

/-- Link two nodes as an argument says. -/
def connect (h : Host) (arg : String) : Except HostError Host := do
  let l ← Argument.link arg
  let source ← h.handle l.source
  let target ← h.handle l.target
  match h.bench.graph.connect source l.sourceSlot target l.targetSlot with
  | .ok graph => .ok { h with bench := { h.bench with graph := graph } }
  | .error e => .error (.model e)

/-! ## Editing -/

/-- What the editor shows of a node. -/
def view (h : Host) (id : String) (mode : Mode) : Except HostError String :=
  match h.liveRecord? id with
  | some r => .ok (r.viewText mode)
  | none => .error (.unknownNode id)

/-- A new editor at work on the workflow. -/
def desk (h : Host) : Desk :=
  { bench := h.bench
    editor := Editor.ofConfig h.config.editor
    clock := h.clock }

/-- Put a text in place of what the editor shows of a node. -/
def typeOver (d : Desk) (id : String) (mode : Mode) (text : String) : Desk :=
  let shown := (((d.switchMode mode).select (some id)).deliver 0).2
  ((shown.userEdit text).deliver 0).2

/-- What an attempt to save a text comes to. -/
def verdict (mode : Mode) (text : String) :
    CommitOutcome → Except HostError Unit
  | .committed => .ok ()
  | .rejected reason => .error (.edit reason)
  | .nothing | .blank =>
      .error (.invalidArgument text ("no " ++ mode.name ++ " change to save"))

/-- Change one side of a node through the editor. -/
def edit (h : Host) (id : String) (mode : Mode) (text : String) :
    Except HostError Unit × Host :=
  match h.liveRecord? id with
  | none => (.error (.unknownNode id), h)
  | some _ =>
      let (outcome, d) := (typeOver h.desk id mode text).flush
      (verdict mode text outcome, { h with bench := d.bench })

/-! ## Running -/

/-- The engine that runs the workflow. -/
def engine (h : Host) : Engine :=
  Engine.ofConfig h.config.engine "linux" h.bench

/-- The reports on outcomes.  A node that has no record any more is left
    out. -/
def reports (b : Workbench) (outcomes : List (Handle × Outcome)) :
    List NodeReport :=
  outcomes.filterMap (fun (node, o) =>
    (b.registry.recordOf? node).map (fun r => NodeReport.ofOutcome r o))

/-- Run every node of the workflow. -/
def run {m : Type → Type} [Monad m] [Programs m] (h : Host) :
    m (List NodeReport × Host) := do
  let (outcomes, e) ← h.engine.executeAll (Request.answer h.config.engine)
  pure (reports e.bench outcomes, { h with bench := e.bench })

end Host
end NodeFlow
