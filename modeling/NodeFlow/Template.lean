import NodeFlow.Record

/-! # Templates

    A template holds what a node of some type starts with. -/

namespace NodeFlow

/-- What a node of some type starts with. -/
structure Template where
  /-- The type tag. -/
  nodeType : String
  /-- The title. -/
  title : String
  /-- The description. -/
  description : String := ""
  /-- The kind of code; nothing for nodes without code. -/
  codeType : Option String := none
  /-- The code. -/
  code : String := ""
  /-- The declared inputs. -/
  inputs : List Port := []
  /-- The outputs. -/
  outputs : List Port := []
  deriving DecidableEq, Repr, Inhabited

namespace Template

/-- The properties of a node made from the template: the description
    always, code and kind of code when the template names a kind. -/
def properties (t : Template) : Table String Json :=
  let base : Table String Json :=
    Table.ofList [(Record.descriptionKey, .str t.description)]
  match t.codeType with
  | none => base
  | some kind =>
      (base.insert Record.codeKey (.str t.code)).insert Record.codeTypeKey
        (.str kind)

/-- Encode a template. -/
def toJson (t : Template) : Json :=
  .obj
    [("code", .str t.code),
      ("codeType", (t.codeType.map Json.str).getD .null),
      ("description", .str t.description),
      ("inputs", .arr (t.inputs.map Port.toJson)),
      ("nodeType", .str t.nodeType),
      ("outputs", .arr (t.outputs.map Port.toJson)),
      ("title", .str t.title)]

/-- Decode a template. -/
def ofJson (v : Json) : Decoded Template := do
  let fields ← Fields.ofJson "NodeTemplate" 7 v
  .ok
    { nodeType := ← fields.get 0 "nodeType" Json.toText
      title := ← fields.get 1 "title" Json.toText
      description := ← fields.get 2 "description" Json.toText
      codeType := ← fields.getOption 3 "codeType" Json.toText false
      code := ← fields.getD 4 "code" Json.toText ""
      inputs := ← fields.get 5 "inputs" (Json.toList Port.ofJson)
      outputs := ← fields.get 6 "outputs" (Json.toList Port.ofJson) }

/-! ## The built-in templates -/

/-- A node of one kind of code, with one input and one output. -/
def codeNode (kind title : String) (input output : Port) : Template :=
  { nodeType := "code/" ++ kind
    title := title
    description := kind ++ " node"
    codeType := some kind
    inputs := [input]
    outputs := [output] }

/-- The random number source. -/
def random : Template :=
  { nodeType := "debug/rand"
    title := "Rand Debug"
    description := "random number source"
    codeType := some "javascript"
    code :=
      "const n = Math.random() * 100;\nreturn \x7blabelMarkedForOutputs: "
        ++ "\"outputs\", Number: n, String: String(n)\x7d;"
    outputs := [⟨"Number", "number", none⟩, ⟨"String", "string", none⟩] }

/-- The sum of two inputs, a missing one counting as zero. -/
def sum : Template :=
  { nodeType := "math/sum"
    title := "Sum"
    description := "a + b"
    codeType := some "javascript"
    code := "return (inputs.input_0 ?? 0) + (inputs.input_1 ?? 0);"
    inputs := [⟨"a", "number", none⟩, ⟨"b", "number", none⟩]
    outputs := [⟨"sum", "number", none⟩] }

/-- The templates that every workflow starts with. -/
def builtin : List Template :=
  [codeNode "javascript" "JavaScript" ⟨"input", "number", none⟩
      ⟨"output", "number", none⟩,
    codeNode "native" "Native" ⟨"input", "number", none⟩
      ⟨"output", "number", none⟩,
    codeNode "python" "Python" ⟨"input", "number", none⟩
      ⟨"output", "number", none⟩,
    codeNode "shell" "Shell" ⟨"input", "string", none⟩
      ⟨"result", "object", none⟩,
    random, sum]

end Template
end NodeFlow
