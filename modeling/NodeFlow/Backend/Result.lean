import NodeFlow.Json.Printer
import NodeFlow.Port

/-! # Results

    Code returns a value of any form.  A marked object says what it is meant
    to be: a value to take as it is, or outputs by name.  An object that
    reports an error is one even without a mark.  Anything else is one value
    for every output.

    Resolving a result against the outputs of a node gives each output its
    value or none; `null` is none. -/

namespace NodeFlow

/-- What a run of code came to. -/
inductive Result where
  /-- Nothing was returned. -/
  | empty
  /-- The code reported an error. -/
  | error (detail : String)
  /-- A value, marked as such. -/
  | value (v : Json)
  /-- Values by the name or place of the output. -/
  | named (outputs : Table String Json)
  /-- One value for every output. -/
  | single (v : Json)
  deriving DecidableEq, Repr

namespace Result

/-- The member that marks an object. -/
def markKey : String := "labelMarkedForOutputs"

/-- The mark of a value to take as it is. -/
def valueMark : String := "rawResult"

/-- The mark of outputs by name. -/
def outputsMark : String := "outputs"

/-- Whether an object reports an error: its `error` is exactly `true`. -/
def reportsError (object : Table String Json) : Bool :=
  object.get? "error" == some (.bool true)

/-- What an object says about its error. -/
def detailOf (object : Table String Json) : String :=
  match (object.get? "detail").orElse (fun _ => object.get? "details") with
  | some (.str s) => s
  | some .null | none => "unknown error"
  | some v => v.compact

/-- Sort an object. -/
def classifyObject (members : List (String × Json)) : Result :=
  let object := Json.tableOf members
  let mark := (object.get? markKey).bind Json.asString?
  if mark = some valueMark then
    if reportsError object then .error (detailOf object)
    else .value ((object.get? "result").getD .null)
  else if mark = some outputsMark then .named (object.erase markKey)
  else if reportsError object
      && (object.contains "detail" || object.contains "details") then
    .error (detailOf object)
  else .single (.obj members)

/-- Sort what code returned. -/
def classify : Option Json → Result
  | none | some .null => .empty
  | some (.obj members) => classifyObject members
  | some v => .single v

/-- The detail of an error. -/
def error? : Result → Option String
  | .error detail => some detail
  | _ => none

/-- The name of the kind of a result. -/
def kind : Result → String
  | .empty => "empty"
  | .error _ => "error"
  | .value _ => "value"
  | .named _ => "namedOutputs"
  | .single _ => "singleValue"

/-- The content of a result. -/
def content : Result → Json
  | .empty => .null
  | .error detail => .str detail
  | .value v => v
  | .named outputs => .ofTable outputs
  | .single v => v

/-- A result as a value that names its kind. -/
def toJson (r : Result) : Json :=
  .obj [("kind", .str r.kind), ("value", r.content)]

/-! ## Outputs -/

/-- The name of an output by its place. -/
def outputKey (i : Nat) : String := "output_" ++ toString i

/-- The value of one output among values by name: its place goes before its
    name. -/
def namedOutput (outputs : Table String Json) (i : Nat) (port : Port) :
    Option Json :=
  ((outputs.get? (outputKey i)).orElse
    (fun _ => outputs.get? port.name)).bind Json.nonNull?

/-- The value of every output. -/
def resolve (r : Result) (ports : List Port) : List (Option Json) :=
  match r with
  | .empty | .error _ => ports.map (fun _ => none)
  | .value v | .single v => ports.map (fun _ => v.nonNull?)
  | .named outputs => ports.mapIdx (namedOutput outputs)

theorem length_resolve (r : Result) (ports : List Port) :
    (r.resolve ports).length = ports.length := by
  cases r <;> simp [resolve]

end Result
end NodeFlow
