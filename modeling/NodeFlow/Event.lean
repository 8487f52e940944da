import NodeFlow.Json.Decode

/-! # Events

    What an engine tells its host while it runs. -/

namespace NodeFlow

/-- What an engine tells its host. -/
inductive Event where
  /-- A node started executing on a backend. -/
  | executionStarted (nodeId backend : String)
  /-- A node finished and its outputs were written; an output may have no
      value. -/
  | executionCompleted (nodeId : String) (outputs : List (Option Json))
  /-- A node failed and its outputs were cleared. -/
  | executionFailed (nodeId error : String)
  /-- A trigger had no effect. -/
  | executionSkipped (nodeId reason : String)
  /-- A node was selected. -/
  | nodeSelected (nodeId : String)
  deriving DecidableEq, Repr

namespace Event

/-- An output in an event: no value is `null`. -/
def outputJson (v : Option Json) : Json := v.getD .null

/-- Encode an event. -/
def toJson : Event → Json
  | .executionStarted id backend =>
      .obj
        [("backend", .str backend), ("nodeId", .str id),
          ("type", .str "executionStarted")]
  | .executionCompleted id outputs =>
      .obj
        [("nodeId", .str id), ("outputs", .arr (outputs.map outputJson)),
          ("type", .str "executionCompleted")]
  | .executionFailed id error =>
      .obj
        [("error", .str error), ("nodeId", .str id),
          ("type", .str "executionFailed")]
  | .executionSkipped id reason =>
      .obj
        [("nodeId", .str id), ("reason", .str reason),
          ("type", .str "executionSkipped")]
  | .nodeSelected id =>
      .obj [("nodeId", .str id), ("type", .str "nodeSelected")]

/-- The names of the kinds of event. -/
def kinds : List String :=
  ["executionStarted", "executionCompleted", "executionFailed",
    "executionSkipped", "nodeSelected"]

/-- Split an encoded event into its kind and the value that holds its other
    fields.  In a list the kind comes first. -/
def tagged : Json → Decoded (String × Json)
  | .obj members =>
      match (Json.tableOf members).get? "type" with
      | some t => do .ok (← t.toText, .obj members)
      | none => .error (.missing "type")
  | .arr (t :: rest) => do .ok (← t.toText, .arr rest)
  | v => .error (.wrongKind v "internally tagged enum NodeEvent")

/-- Decode an event. -/
def ofJson (v : Json) : Decoded Event := do
  let (kind, body) ← tagged v
  match kind with
  | "executionStarted" =>
      let fields ← Fields.ofJson "NodeEvent" 2 body
      .ok (.executionStarted (← fields.get 0 "nodeId" Json.toText)
        (← fields.get 1 "backend" Json.toText))
  | "executionCompleted" =>
      let fields ← Fields.ofJson "NodeEvent" 2 body
      .ok (.executionCompleted (← fields.get 0 "nodeId" Json.toText)
        (← fields.get 1 "outputs" (Json.toList (Json.toOption Json.toAny))))
  | "executionFailed" =>
      let fields ← Fields.ofJson "NodeEvent" 2 body
      .ok (.executionFailed (← fields.get 0 "nodeId" Json.toText)
        (← fields.get 1 "error" Json.toText))
  | "executionSkipped" =>
      let fields ← Fields.ofJson "NodeEvent" 2 body
      .ok (.executionSkipped (← fields.get 0 "nodeId" Json.toText)
        (← fields.get 1 "reason" Json.toText))
  | "nodeSelected" =>
      let fields ← Fields.ofJson "NodeEvent" 1 body
      .ok (.nodeSelected (← fields.get 0 "nodeId" Json.toText))
  | other => .error (.unknownName other kinds)

end Event

/-! ## Channels -/

/-- Why an event could not be sent. -/
inductive SendError where
  /-- Nobody receives any more. -/
  | channelClosed
  deriving DecidableEq, Repr

/-- The wording of an error. -/
def SendError.message : SendError → String
  | .channelClosed => "Event error: Channel closed"

/-- A channel for events with one receiver. -/
structure EventChannel where
  /-- Events sent and not received yet. -/
  waiting : List Event := []
  /-- Whether the receiver is still there. -/
  connected : Bool := true
  deriving DecidableEq, Repr

namespace EventChannel

/-- Send an event; it fails once the receiver is gone. -/
def send (c : EventChannel) (e : Event) : Except SendError EventChannel :=
  if c.connected then .ok { c with waiting := c.waiting ++ [e] }
  else .error .channelClosed

/-- Receive the event that has waited longest. -/
def receive? (c : EventChannel) : Option (Event × EventChannel) :=
  match c.waiting with
  | [] => none
  | e :: rest => some (e, { c with waiting := rest })

/-- The receiver goes away, and with it what it has not received. -/
def close (_ : EventChannel) : EventChannel := ⟨[], false⟩

end EventChannel
end NodeFlow
