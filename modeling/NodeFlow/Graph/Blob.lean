import NodeFlow.Graph.Basic
import NodeFlow.Json.Numeral

/-! # The exported form of a graph

    The form holds the nodes under their handles written in decimal, the
    links and the last handle.  Values and marks are not part of it: a graph
    that is read has none.

    Members are looked at in ascending order, and only then is it seen what
    is missing, first what comes first in the form. -/

namespace NodeFlow

namespace LiveNode

/-- Encode a node. -/
def toJson (n : LiveNode) : Json :=
  .obj
    [("handle", .ofNat n.handle),
      ("inputs", .arr (n.inputs.map Port.toJson)),
      ("nodeType", .str n.nodeType),
      ("outputs", .arr (n.outputs.map Port.toJson)),
      ("title", .str n.title)]

/-- Decode a node; its outputs hold nothing. -/
def ofJson (v : Json) : Decoded LiveNode := do
  let fields ← Fields.ofJson "MemoryNode" 5 v
  let handle ← fields.find? 0 "handle" Json.toWord
  let inputs ← fields.find? 3 "inputs" (Json.toList Port.ofJson)
  let nodeType ← fields.find? 1 "nodeType" Json.toText
  let outputs ← fields.find? 4 "outputs" (Json.toList Port.ofJson)
  let title ← fields.find? 2 "title" Json.toText
  let node : LiveNode :=
    { handle := ← fields.require 0 "handle" handle
      nodeType := ← fields.require 1 "nodeType" nodeType
      title := ← fields.require 2 "title" title
      inputs := ← fields.require 3 "inputs" inputs
      outputs := ← fields.require 4 "outputs" outputs
      values := [] }
  .ok node.clearValues

end LiveNode

namespace Link

/-- Encode a link. -/
def toJson (l : Link) : Json :=
  .obj
    [("from", .ofNat l.source), ("fromSlot", .ofNat l.sourceSlot),
      ("to", .ofNat l.target), ("toSlot", .ofNat l.targetSlot)]

/-- Decode a link. -/
def ofJson (v : Json) : Decoded Link := do
  let fields ← Fields.ofJson "Link" 4 v
  let source ← fields.find? 0 "from" Json.toWord
  let sourceSlot ← fields.find? 1 "fromSlot" Json.toIndex
  let target ← fields.find? 2 "to" Json.toWord
  let targetSlot ← fields.find? 3 "toSlot" Json.toIndex
  .ok
    { source := ← fields.require 0 "from" source
      sourceSlot := ← fields.require 1 "fromSlot" sourceSlot
      target := ← fields.require 2 "to" target
      targetSlot := ← fields.require 3 "toSlot" targetSlot }

end Link

namespace Graph

/-- The handle that a text writes in decimal, without zeros in front. -/
def handleOfText? (s : String) : Option Handle :=
  let cs := s.toList
  if cs.isEmpty || !cs.all Char.isDigit then none
  else
    let n := Numeral.digitsValue cs
    if toString n = s ∧ n < handleLimit then some n else none

/-- Decode a table of nodes under their handles. -/
def nodesOfJson : Json → Decoded (Table Handle LiveNode)
  | .obj members => do
      let pairs ← (Json.tableOf members).entries.mapM (fun (key, v) => do
        match handleOfText? key with
        | some h => .ok (h, ← LiveNode.ofJson v)
        | none =>
            .error
              (.malformed
                "invalid value: expected key to be a number in quotes"))
      .ok (Table.ofList pairs)
  | v => .error (.wrongKind v "a map")

/-- The exported form of a graph. -/
def toJson (g : Graph) : Json :=
  .obj
    [("links", .arr (g.links.map Link.toJson)),
      ("nextHandle", .ofNat g.lastHandle),
      ("nodes",
        .ofTable
          (Table.ofList
            (g.nodes.entries.map
              (fun (h, n) => (toString h, n.toJson)))))]

/-- The greatest handle of a node, or `least` if that is greater. -/
def greatestHandle (nodes : Table Handle LiveNode) (least : Handle) : Handle :=
  nodes.keys.foldl max least

/-- Read the exported form of a graph as it is written. -/
def stateOfJson (v : Json) : Decoded Graph := do
  let fields ← Fields.ofJson "GraphState" 3 v
  let links? ← fields.find? 2 "links" (Json.toList Link.ofJson)
  let last? ← fields.find? 0 "nextHandle" Json.toWord
  let nodes? ← fields.find? 1 "nodes" nodesOfJson
  let last ← fields.require 0 "nextHandle" last?
  let nodes ← fields.require 1 "nodes" nodes?
  let links ← fields.require 2 "links" links?
  .ok { lastHandle := last, nodes := nodes, links := links }

/-- The graph with a last handle that no node exceeds. -/
def countedOn (g : Graph) : Graph :=
  { g with lastHandle := greatestHandle g.nodes g.lastHandle }

/-- Read the exported form of a graph.  The next handle comes after that of
    every node. -/
def ofJson (v : Json) : Decoded Graph := (stateOfJson v).map countedOn

/-- Replace the graph by one in exported form. -/
def configure (data : Json) : Except ModelError Graph :=
  match ofJson data with
  | .ok g => .ok g
  | .error e => .error (.undecodable e)

end Graph
end NodeFlow
