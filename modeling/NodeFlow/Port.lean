import NodeFlow.Json.Decode
import NodeFlow.Json.Shape

/-! # Ports

    A port is a named, typed place where a value enters or leaves a node. -/

namespace NodeFlow

/-- A named, typed port. -/
structure Port where
  /-- The name, unique among the inputs or outputs of a node. -/
  name : String
  /-- A free-form word for the kind of value. -/
  type : String
  /-- Further options of the port, handed on as they are. -/
  extra : Option Json := none
  deriving DecidableEq, Repr, Inhabited

namespace Port

/-- Encode a port.  Options are left out when there are none. -/
def toJson (p : Port) : Json :=
  .obj
    ((match p.extra with
      | some e => [("extra", e)]
      | none => [])
      ++ [("name", .str p.name), ("type", .str p.type)])

/-- Decode a port. -/
def ofJson (v : Json) : Decoded Port := do
  let fields ← Fields.ofJson "PortSpec" 3 v
  let extra ← fields.getOption 2 "extra" Json.toAny true
  let name ← fields.find? 0 "name" Json.toText
  let type ← fields.find? 1 "type" Json.toText
  .ok
    { name := ← fields.require 0 "name" name
      type := ← fields.require 1 "type" type
      extra := extra }

/-- What is wanted of a port in a text. -/
def shape (checked : Bool) : Json.Shape :=
  .record [("name", .any), ("type", .any), ("extra", .any)] checked

end Port
end NodeFlow
