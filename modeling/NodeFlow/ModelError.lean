import NodeFlow.Snapshot

/-! # Errors of the model

    Why an operation on the graph, or on graph and records together, was
    refused.  A refused operation on the graph changes nothing. -/

namespace NodeFlow

/-- Why an operation on the model was refused. -/
inductive ModelError where
  /-- No record has this identifier. -/
  | unknownRecord (id : String)
  /-- No live node has this handle. -/
  | unknownHandle (node : Handle)
  /-- The node has no port in this place. -/
  | portOutOfRange (node : Handle) (index : Nat)
  /-- A node may not be linked to itself. -/
  | selfLink
  /-- The exported form of a graph is not one. -/
  | undecodable (reason : DecodeError)
  deriving DecidableEq, Repr

/-- The wording of an error. -/
def ModelError.message : ModelError → String
  | .unknownRecord id => "Unknown node: " ++ id
  | .unknownHandle node => "Unknown visual node: " ++ toString node
  | .portOutOfRange node index =>
      "Port " ++ toString index ++ " out of range on visual node "
        ++ toString node
  | .selfLink => "Graph error: cannot link a node to itself"
  | .undecodable reason => "Serialization error: " ++ reason.message

end NodeFlow
