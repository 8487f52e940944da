import NodeFlow.Graph.Blob
import NodeFlow.Registry

/-! # The workbench

    Graph and registry change together: what a record says about title and
    ports, its live node shows. -/

namespace NodeFlow

/-- A graph and the records of its nodes. -/
structure Workbench where
  /-- The live nodes. -/
  graph : Graph := {}
  /-- The records. -/
  registry : Registry := Registry.builtin
  deriving DecidableEq, Repr, Inhabited

namespace Workbench

/-- The graph after a change, or as it was if the change was refused. -/
def attempt (g : Graph) (change : Except ModelError Graph) : Graph :=
  match change with
  | .ok g' => g'
  | .error _ => g

/-- Make a node with its record. -/
def addNode (w : Workbench) (nodeType : String) : Record × Workbench :=
  let (title, inputs, outputs) :=
    match w.registry.templates.get? nodeType with
    | some t => (t.title, t.inputs, t.outputs)
    | none => (nodeType, [], [])
  let (node, graph) := w.graph.addNode nodeType title inputs outputs
  let (record, registry) := w.registry.add node nodeType
  (record, ⟨graph, registry⟩)

/-- Remove a node and mark its record; tells whether there was either. -/
def removeNode (w : Workbench) (node : Handle) : Bool × Workbench :=
  let (hadNode, graph) := w.graph.removeNode node
  let (hadRecord, registry) := w.registry.remove node
  (hadNode || hadRecord, ⟨graph, registry⟩)

/-- Add a dynamic input to a record and its node. -/
def addDynamicInput (w : Workbench) (node : Handle) (name type : String) :
    Bool × Workbench :=
  match w.registry.recordOf? node with
  | none => (false, w)
  | some x =>
      let (added, registry) := w.registry.addDynamicInput x.id name type
      let graph :=
        if added then
          attempt w.graph (w.graph.addInput node ⟨name, type, none⟩)
        else w.graph
      (added, ⟨graph, registry⟩)

/-- Remove a dynamic input from a record and its node. -/
def removeDynamicInput (w : Workbench) (node : Handle) (name : String) :
    Bool × Workbench :=
  match w.registry.recordOf? node with
  | none => (false, w)
  | some x =>
      let (removed, registry) := w.registry.removeDynamicInput x.id name
      let graph :=
        if removed then
          attempt w.graph ((w.graph.removeInput node name).map (·.2))
        else w.graph
      (removed, ⟨graph, registry⟩)

/-- Let the node of a record show other ports and another title.  All its
    links are lost. -/
def showStructure (g : Graph) (node : Handle) (title : String) (x : Record) :
    Graph :=
  let change := do
    let g ← g.replacePorts node x.liveInputs x.outputs
    g.setTitle node title
  (attempt g change).mark node

/-- Give a node another title and other static ports; tells whether its
    record exists.  Surviving dynamic inputs follow the static ones. -/
def applyStructure (w : Workbench) (id title : String)
    (inputs outputs : List Port) : Bool × Workbench :=
  let (found, registry) := w.registry.setStructure id title inputs outputs
  match found, registry.record? id, registry.handleOf? id with
  | true, some x, some node =>
      (true, ⟨showStructure w.graph node title x, registry⟩)
  | true, some _, none => (true, { w with registry := registry })
  | _, _, _ => (false, w)

/-- Store the code of a node and save it; tells whether its record
    exists. -/
def setCode (w : Workbench) (id code language : String) (now : Timestamp) :
    Bool × Workbench :=
  let (found, registry) :=
    w.registry.updateProperties id (Table.ofList [(Record.codeKey, .str code)])
  if found then
    let (saved, registry) := registry.saveCode id code language now
    (saved, { w with registry := registry })
  else (false, w)

/-- Store the description of a node; tells whether its record exists. -/
def setDescription (w : Workbench) (id text : String) : Bool × Workbench :=
  let (found, registry) :=
    w.registry.updateProperties id
      (Table.ofList [(Record.descriptionKey, .str text)])
  (found, { w with registry := registry })

/-! ## Export and import -/

/-- The links of records, by identifier. -/
def exportLinks (r : Registry) (records : List Record) : Table String Handle :=
  Table.ofList
    (records.filterMap (fun x => (r.handleOf? x.id).map (fun h => (x.id, h))))

/-- All of the workflow.  Removed records are left out. -/
def snapshot (w : Workbench) : Snapshot :=
  { graph := w.graph.toJson
    nodes := w.registry.live
    links := exportLinks w.registry w.registry.live
    code := w.registry.code }

/-- Link records to live nodes in turn, up to the first that does not exist.
    A link to a node that does not exist is passed over. -/
def restoreLinks (g : Graph) (r : Registry) :
    List (String × Handle) → Except ModelError Unit × Registry
  | [] => (.ok (), r)
  | (id, node) :: rest =>
      if g.contains node then
        match r.link node id with
        | (true, r') => restoreLinks g r' rest
        | (false, _) => (.error (.unknownRecord id), r)
      else restoreLinks g r rest

/-- Replace everything by a workflow.  If the graph cannot be read, nothing
    changes; if a link names no record, what came before it is done. -/
def configure (w : Workbench) (s : Snapshot) :
    Except ModelError Unit × Workbench :=
  match Graph.configure s.graph with
  | .error e => (.error e, w)
  | .ok graph =>
      let (outcome, registry) :=
        restoreLinks graph (w.registry.load s.nodes s.code) s.links.entries
      (outcome, ⟨graph, registry⟩)

/-- Remove everything but the templates. -/
def clear (w : Workbench) : Workbench := ⟨{}, w.registry.clear⟩

end Workbench
end NodeFlow
