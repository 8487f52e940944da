import NodeFlow.Proofs.Graph.Reached

/-! # Ports with an identity

    A graph names a port by its node and its place, and places move when an
    input is removed.  In a `PortGraph` every port has an identity that it
    keeps as long as it exists, a number that no other port gets.  A link goes
    from an output to an input, and an input has at most one by construction,
    since `source` is a function.  Operations do to ports and links what they
    say; none of them counts places anew. -/

namespace NodeFlow

/-- An input with its identity and its name. -/
structure PortGraph.Input where
  /-- The identity. -/
  id : Nat
  /-- The name. -/
  name : String
  deriving DecidableEq, Repr

/-- The ports of a node in the order of their places. -/
structure PortGraph.Node where
  /-- The inputs. -/
  inputs : List PortGraph.Input
  /-- The outputs. -/
  outputs : List Nat
  deriving DecidableEq, Repr

/-- Nodes whose ports have identities, and links between ports. -/
structure PortGraph where
  /-- The handle given last. -/
  lastHandle : Handle := 0
  /-- The nodes. -/
  nodes : Handle → Option PortGraph.Node := fun _ => none
  /-- The output that an input is linked to. -/
  source : Nat → Option Nat := fun _ => none
  /-- What an output holds. -/
  value : Nat → Option Json := fun _ => none
  /-- The identity that the next port gets. -/
  nextPort : Nat := 0

namespace PortGraph

/-- The input at a place. -/
def input? (a : PortGraph) (v : Handle) (i : Nat) : Option Nat := do
  (← (← a.nodes v).inputs[i]?).id

/-- The output at a place. -/
def output? (a : PortGraph) (v : Handle) (i : Nat) : Option Nat := do
  (← a.nodes v).outputs[i]?

/-- What the output holds that an input is linked to. -/
def read? (a : PortGraph) (p : Nat) : Option Json :=
  (a.source p).bind a.value

/-! ## Operations -/

/-- A node with new ports, the first of which has the identity given. -/
def newPorts (first : Nat) (inputs outputs : List Port) : Node where
  inputs := inputs.mapIdx (fun k p => ⟨first + k, p.name⟩)
  outputs := outputs.mapIdx (fun k _ => first + inputs.length + k)

/-- Let a node have these ports, or be no node. -/
def setNode (a : PortGraph) (v : Handle) (m : Option Node) : PortGraph :=
  { a with nodes := fun u => if u = v then m else a.nodes u }

/-- Let an input be linked to an output, or to none. -/
def setSource (a : PortGraph) (p : Nat) (o : Option Nat) : PortGraph :=
  { a with source := fun q => if q = p then o else a.source q }

/-- Delete the links that start or end at a port of a node. -/
def unlink (a : PortGraph) (m : Node) : PortGraph :=
  { a with
    source := fun p =>
      if p ∈ m.inputs.map Input.id then none
      else (a.source p).filter (fun o => o ∉ m.outputs) }

/-- Give a node new ports. -/
def place (a : PortGraph) (v : Handle) (inputs outputs : List Port) :
    PortGraph :=
  { a.setNode v (some (newPorts a.nextPort inputs outputs)) with
    nextPort := a.nextPort + inputs.length + outputs.length }

/-- Delete a node, its ports and their links. -/
def remove (a : PortGraph) (v : Handle) : PortGraph :=
  match a.nodes v with
  | some m => (a.unlink m).setNode v none
  | none => a

/-- Append an input that is not linked. -/
def addInput (a : PortGraph) (v : Handle) (name : String) : PortGraph :=
  match a.nodes v with
  | some m =>
      { a.setNode v (some { m with inputs := m.inputs ++ [⟨a.nextPort, name⟩] })
        with nextPort := a.nextPort + 1 }
  | none => a

/-- Delete the first input of a name and its link. -/
def removeInput (a : PortGraph) (v : Handle) (name : String) : PortGraph :=
  match a.nodes v with
  | some m =>
      match m.inputs.find? (fun q => q.name == name) with
      | some q =>
          (a.setSource q.id none).setNode v
            (some { m with
              inputs := m.inputs.eraseP (fun q => q.name == name) })
      | none => a
  | none => a

/-- Let an output hold a value, or none. -/
def hold (a : PortGraph) (o : Nat) (value : Option Json) : PortGraph :=
  { a with value := fun q => if q = o then value else a.value q }

/-- The port graph with nothing on any output. -/
def emptied (a : PortGraph) : PortGraph := { a with value := fun _ => none }

/-- The port graph after an operation other than an import, which is looked
    at apart.  Operations on what does not exist change nothing. -/
def perform (a : PortGraph) : Graph.Operation → PortGraph
  | .addNode _ _ inputs outputs =>
      PortGraph.place { a with lastHandle := a.lastHandle + 1 }
        (a.lastHandle + 1) inputs outputs
  | .removeNode v => a.remove v
  | .replacePorts v inputs outputs =>
      match a.nodes v with
      | some _ => (a.remove v).place v inputs outputs
      | none => a
  | .addInput v port => a.addInput v port.name
  | .removeInput v name => a.removeInput v name
  | .setOutputData v index value =>
      match a.output? v index with
      | some o => a.hold o value
      | none => a
  | .connect s i t j =>
      if s = t then a
      else
        match a.output? s i, a.input? t j with
        | some o, some p => a.setSource p (some o)
        | _, _ => a
  | .clear => {}
  | .setTitle .. | .mark .. | .takeMarks | .configure .. => a

/-! ## Looking up -/

variable {a : PortGraph} {u v : Handle} {i j : Nat} {m : Node} {p o : Nat}

/-- An input is found by its place in the list of its node, and known by its
    identity. -/
theorem input?_eq_some_iff :
    a.input? v i = some p ↔
      ∃ m, a.nodes v = some m ∧ ∃ q, m.inputs[i]? = some q ∧ q.id = p := by
  unfold input?
  cases a.nodes v with
  | none => simp
  | some m => cases h : m.inputs[i]? <;> simp [h]

/-- An output is found by its place. -/
theorem output?_eq_some_iff :
    a.output? v i = some o ↔
      ∃ m, a.nodes v = some m ∧ m.outputs[i]? = some o := by
  unfold output?
  cases a.nodes v <;> simp

/-- The inputs of all nodes once one of them is replaced. -/
theorem input?_setNode (a : PortGraph) (v u : Handle) (m : Node) (i : Nat) :
    (a.setNode v (some m)).input? u i
      = if u = v then m.inputs[i]?.map Input.id else a.input? u i := by
  unfold setNode input?
  by_cases hu : u = v
  · simp only [hu, if_true]
    cases h : m.inputs[i]? <;> simp [h]
  · simp only [hu, if_false]

/-- The outputs of all nodes once one of them is replaced. -/
theorem output?_setNode (a : PortGraph) (v u : Handle) (m : Node) (i : Nat) :
    (a.setNode v (some m)).output? u i
      = if u = v then m.outputs[i]? else a.output? u i := by
  unfold setNode output?
  by_cases hu : u = v
  · simp [hu]
  · simp only [hu, if_false]

/-- A node that is removed takes its inputs with it. -/
theorem input?_remove (a : PortGraph) (v u : Handle) (i : Nat) :
    (a.remove v).input? u i = if u = v then none else a.input? u i := by
  unfold remove
  cases hv : a.nodes v with
  | none =>
      by_cases hu : u = v
      · simp [hu, input?, hv]
      · simp [hu]
  | some m =>
      by_cases hu : u = v
      · simp [hu, input?, setNode]
      · simp [hu, input?, setNode, unlink]

/-- A node that is removed takes its outputs with it. -/
theorem output?_remove (a : PortGraph) (v u : Handle) (i : Nat) :
    (a.remove v).output? u i = if u = v then none else a.output? u i := by
  unfold remove
  cases hv : a.nodes v with
  | none =>
      by_cases hu : u = v
      · simp [hu, output?, hv]
      · simp [hu]
  | some m =>
      by_cases hu : u = v
      · simp [hu, output?, setNode]
      · simp [hu, output?, setNode, unlink]

end PortGraph

end NodeFlow
