import NodeFlow.Backend.Kind
import NodeFlow.Backend.Result
import NodeFlow.Json.Shape
import NodeFlow.Text.Lines

/-! # Envelopes

    An interpreter answers with an envelope on the last line of its output
    that is not blank.  What it prints before does not matter. -/

namespace NodeFlow

/-- The answer of an interpreter. -/
structure Envelope where
  /-- Whether the code ran to its end. -/
  ok : Bool
  /-- What it returned. -/
  value : Option Json := none
  /-- What went wrong. -/
  detail : Option String := none
  deriving DecidableEq, Repr, Inhabited

namespace Envelope

/-- Encode an envelope. -/
def toJson (e : Envelope) : Json :=
  .obj
    [("detail", (e.detail.map Json.str).getD .null), ("ok", .bool e.ok),
      ("value", e.value.getD .null)]

/-- Decode an envelope. -/
def ofJson (v : Json) : Decoded Envelope := do
  let fields ← Fields.ofJson "Envelope" 3 v
  .ok
    { ok := ← fields.get 0 "ok" Json.toBool
      value := ← fields.getOption 1 "value" Json.toAny true
      detail := ← fields.getOption 2 "detail" Json.toText true }

/-- What is wanted of an envelope in a text. -/
def shape : Json.Shape :=
  .record [("ok", .any), ("value", .any), ("detail", .any)] false

/-- The envelope that a line holds; `none` when it holds none. -/
def ofLine? (line : String) : Option Envelope := do
  (ofJson (← Json.readAs shape line)).toOption

/-- The result that an envelope stands for. -/
def result (e : Envelope) : Result :=
  if e.ok then Result.classify e.value
  else .error (e.detail.getD "interpreter reported an error")

/-- What is said of a line that holds no envelope: only the first words of the
    message, without the fault that the reader finds, which stands after
    them. -/
def invalidReply : String := "invalid interpreter reply: "

/-- The envelope at the end of an output. -/
def ofOutput (output : String) : Except Failure Envelope :=
  match (Text.lines output).reverse.find? (fun l => !Text.allBlank l) with
  | none => .error (.bridge "interpreter produced no output")
  | some line =>
      match ofLine? line with
      | some e => .ok e
      | none => .error (.bridge invalidReply)

end Envelope
end NodeFlow
