import NodeFlow.ModelError

/-! # The graph of live nodes

    A live node has ports and holds a value, or none, on every output.  A
    link takes the value of an output to an input of another node; an input
    has at most one link.  Nodes that need to be drawn anew are marked.

    An operation that names a node or a port that does not exist answers an
    error.  It looks for all that it needs before it changes anything, so with
    the error comes no graph: it is still the one that there was. -/

namespace NodeFlow

/-- A node on the canvas. -/
structure LiveNode where
  /-- The handle. -/
  handle : Handle
  /-- The type tag. -/
  nodeType : String
  /-- The title. -/
  title : String
  /-- The inputs. -/
  inputs : List Port
  /-- The outputs. -/
  outputs : List Port
  /-- What each output holds. -/
  values : List (Option Json)
  deriving DecidableEq, Repr, Inhabited

/-- The node with nothing on any output. -/
def LiveNode.clearValues (n : LiveNode) : LiveNode :=
  { n with values := List.replicate n.outputs.length none }

/-- A link from an output to an input. -/
structure Link where
  /-- The node that the value comes from. -/
  source : Handle
  /-- The place of the output. -/
  sourceSlot : Nat
  /-- The node that the value goes to. -/
  target : Handle
  /-- The place of the input. -/
  targetSlot : Nat
  deriving DecidableEq, Repr, Inhabited

namespace Link

/-- Whether a link starts or ends at a node. -/
def touches (l : Link) (node : Handle) : Bool :=
  l.source == node || l.target == node

/-- Whether a link ends at an input. -/
def enters (l : Link) (node : Handle) (slot : Nat) : Bool :=
  l.target == node && l.targetSlot == slot

/-- The link once the input in place `slot` of a node is gone. -/
def closeGap (l : Link) (node : Handle) (slot : Nat) : Link :=
  if l.target = node ∧ slot < l.targetSlot then
    { l with targetSlot := l.targetSlot - 1 }
  else l

end Link

/-- Live nodes and their links. -/
structure Graph where
  /-- The handle given last. -/
  lastHandle : Handle := 0
  /-- The live nodes. -/
  nodes : Table Handle LiveNode := Table.empty
  /-- The links, oldest first. -/
  links : List Link := []
  /-- The nodes marked for drawing. -/
  dirty : Table Handle Unit := Table.empty
  deriving DecidableEq, Repr, Inhabited

namespace Graph

/-- Handles are counted in 64 bits. -/
def handleLimit : Nat := 2 ^ 64

/-- Whether a live node has this handle. -/
def contains (g : Graph) (node : Handle) : Bool := g.nodes.contains node

/-- The live node with a handle. -/
def node (g : Graph) (node : Handle) : Except ModelError LiveNode :=
  match g.nodes.get? node with
  | some n => .ok n
  | none => .error (.unknownHandle node)

/-- The inputs of a node. -/
def inputs? (g : Graph) (node : Handle) : Option (List Port) :=
  (g.nodes.get? node).map LiveNode.inputs

/-- The outputs of a node. -/
def outputs? (g : Graph) (node : Handle) : Option (List Port) :=
  (g.nodes.get? node).map LiveNode.outputs

/-- The title of a node. -/
def title? (g : Graph) (node : Handle) : Option String :=
  (g.nodes.get? node).map LiveNode.title

/-- The value that an output holds. -/
def outputData? (g : Graph) (node : Handle) (index : Nat) : Option Json := do
  (← (← g.nodes.get? node).values[index]?)

/-- The value that reaches an input over its link. -/
def inputData? (g : Graph) (node : Handle) (index : Nat) : Option Json := do
  let link ← g.links.find? (fun l => l.enters node index)
  g.outputData? link.source link.sourceSlot

/-! ## Changing nodes -/

/-- Mark a live node for drawing. -/
def mark (g : Graph) (node : Handle) : Graph :=
  if g.contains node then { g with dirty := g.dirty.insert node () } else g

/-- Take the marks away and tell which nodes had one, least handle first. -/
def takeMarks (g : Graph) : List Handle × Graph :=
  (g.dirty.keys, { g with dirty := Table.empty })

/-- Add a node under a new handle. -/
def addNode (g : Graph) (nodeType title : String)
    (inputs outputs : List Port) : Handle × Graph :=
  let handle := (g.lastHandle + 1) % handleLimit
  let node : LiveNode :=
    { handle := handle
      nodeType := nodeType
      title := title
      inputs := inputs
      outputs := outputs
      values := [] }
  (handle,
    { g with
      lastHandle := handle
      nodes := g.nodes.insert handle node.clearValues })

/-- The graph without the links that start or end at a node. -/
def dropLinks (g : Graph) (node : Handle) : Graph :=
  { g with links := g.links.filter (fun l => !l.touches node) }

/-- Remove a node with all its links; tells whether there was one. -/
def removeNode (g : Graph) (node : Handle) : Bool × Graph :=
  if g.contains node then
    (true,
      { g.dropLinks node with
        nodes := g.nodes.erase node
        dirty := g.dirty.erase node })
  else (false, g)

/-- Store a changed node and mark it. -/
def putNode (g : Graph) (node : Handle) (n : LiveNode) : Graph :=
  ({ g with nodes := g.nodes.insert node n } : Graph).mark node

/-- Give a node another title. -/
def setTitle (g : Graph) (node : Handle) (title : String) :
    Except ModelError Graph := do
  let n ← g.node node
  .ok (g.putNode node { n with title := title })

/-- Give a node other ports.  No link survives. -/
def replacePorts (g : Graph) (node : Handle) (inputs outputs : List Port) :
    Except ModelError Graph := do
  let n ← g.node node
  let changed : LiveNode := { n with inputs := inputs, outputs := outputs }
  .ok ((g.dropLinks node).putNode node changed.clearValues)

/-- Append an input. -/
def addInput (g : Graph) (node : Handle) (port : Port) :
    Except ModelError Graph := do
  let n ← g.node node
  .ok (g.putNode node { n with inputs := n.inputs ++ [port] })

/-- Remove the first input of a name together with its link; tells whether
    there was one.  The links of later inputs follow their ports. -/
def removeInput (g : Graph) (node : Handle) (name : String) :
    Except ModelError (Bool × Graph) := do
  let n ← g.node node
  match n.inputs.findIdx? (fun p => p.name == name) with
  | none => .ok (false, g)
  | some slot =>
      let links :=
        (g.links.filter (fun l => !l.enters node slot)).map
          (fun l => l.closeGap node slot)
      let changed : LiveNode := { n with inputs := n.inputs.eraseIdx slot }
      .ok (true, ({ g with links := links } : Graph).putNode node changed)

/-! ## Values and links -/

/-- Let an output hold a value, or none. -/
def setOutputData (g : Graph) (node : Handle) (index : Nat)
    (value : Option Json) : Except ModelError Graph := do
  let n ← g.node node
  if index < n.values.length then
    let changed : LiveNode := { n with values := n.values.set index value }
    .ok { g with nodes := g.nodes.insert node changed }
  else .error (.portOutOfRange node index)

/-- Link an output to an input, in place of the link that the input has. -/
def connect (g : Graph) (source : Handle) (sourceSlot : Nat)
    (target : Handle) (targetSlot : Nat) : Except ModelError Graph := do
  if source = target then .error .selfLink
  else
    let s ← g.node source
    if s.outputs.length ≤ sourceSlot then
      .error (.portOutOfRange source sourceSlot)
    else
      let t ← g.node target
      if t.inputs.length ≤ targetSlot then
        .error (.portOutOfRange target targetSlot)
      else
        .ok
          { g with
            links :=
              g.links.filter (fun l => !l.enters target targetSlot)
                ++ [⟨source, sourceSlot, target, targetSlot⟩] }

end Graph
end NodeFlow
