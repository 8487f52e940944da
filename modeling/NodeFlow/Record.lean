import NodeFlow.Port

/-! # Node records

    A record is the lasting side of a node: what it is called, what ports it
    has, and a bag of properties, of which the code, the kind of code and the
    description are read here.  The inputs of the live node are the static
    inputs followed by those added at run time. -/

namespace NodeFlow

/-- The lasting side of a node. -/
structure Record where
  /-- The identifier, given once by the registry. -/
  id : String
  /-- The type tag, such as `math/sum`. -/
  nodeType : String
  /-- The title shown on the node. -/
  title : String := ""
  /-- The bag of properties. -/
  properties : Table String Json := Table.empty
  /-- The declared inputs. -/
  inputs : List Port := []
  /-- The declared outputs. -/
  outputs : List Port := []
  /-- Inputs added at run time. -/
  dynamicInputs : List Port := []
  /-- Whether the live node has been removed. -/
  removed : Bool := false
  deriving DecidableEq, Repr, Inhabited

namespace Record

/-- The property that holds the code. -/
def codeKey : String := "fn"

/-- The property that names the kind of code. -/
def codeTypeKey : String := "codeType"

/-- The property that holds the description. -/
def descriptionKey : String := "description"

/-- Static inputs, then dynamic ones. -/
def liveInputs (r : Record) : List Port := r.inputs ++ r.dynamicInputs

/-- Whether an input has this name. -/
def hasInput (r : Record) (name : String) : Bool :=
  r.liveInputs.any (fun p => p.name == name)

/-- A property that is a text. -/
def textProperty? (r : Record) (key : String) : Option String :=
  (r.properties.get? key).bind Json.asString?

/-- The code, empty when there is none. -/
def code (r : Record) : String := (r.textProperty? codeKey).getD ""

/-- The kind of code, if one is named. -/
def codeType? (r : Record) : Option String := r.textProperty? codeTypeKey

/-- The description, empty when there is none. -/
def description (r : Record) : String :=
  (r.textProperty? descriptionKey).getD ""

/-- Store properties over those with the same keys. -/
def withProperties (r : Record) (more : Table String Json) : Record :=
  { r with properties := r.properties.merge more }

/-- Encode a record; the mark of removal is written only when set. -/
def toJson (r : Record) : Json :=
  .obj
    ([("dynamicInputs", .arr (r.dynamicInputs.map Port.toJson)),
      ("id", .str r.id),
      ("inputs", .arr (r.inputs.map Port.toJson)),
      ("nodeType", .str r.nodeType),
      ("outputs", .arr (r.outputs.map Port.toJson)),
      ("properties", .ofTable r.properties)]
      ++ (if r.removed then [("removed", .bool true)] else [])
      ++ [("title", .str r.title)])

/-- Decode a record. -/
def ofJson (v : Json) : Decoded Record := do
  let fields ← Fields.ofJson "NodeRecord" 8 v
  .ok
    { id := ← fields.get 0 "id" Json.toText
      nodeType := ← fields.get 1 "nodeType" Json.toText
      title := ← fields.getD 2 "title" Json.toText ""
      properties :=
        ← fields.getD 3 "properties" (Json.toTable Json.toAny) Table.empty
      inputs := ← fields.getD 4 "inputs" (Json.toList Port.ofJson) []
      outputs := ← fields.getD 5 "outputs" (Json.toList Port.ofJson) []
      dynamicInputs :=
        ← fields.getD 6 "dynamicInputs" (Json.toList Port.ofJson) []
      removed := ← fields.getD 7 "removed" Json.toBool false }

/-- What is wanted of a record in a text. -/
def shape (checked : Bool) : Json.Shape :=
  let ports := Json.Shape.list (Port.shape checked)
  .record
    [("id", .any), ("nodeType", .any), ("title", .any), ("properties", .any),
      ("inputs", ports), ("outputs", ports), ("dynamicInputs", ports),
      ("removed", .any)]
    checked

end Record
end NodeFlow
