import NodeFlow.Backend.Kind
import NodeFlow.Editor.Mode
import NodeFlow.Editor.Structure
import NodeFlow.Record

/-! # Views

    What the editor shows for a record in a mode, and in what language.
    Instead of empty code it shows a starter, which names every input the way
    the backend receives it: by its place among the live inputs. -/

namespace NodeFlow

namespace Starter

/-- One line for each input, from its place and name. -/
def inputLines (line : Nat → String → String) (inputs : List Port) :
    List String :=
  inputs.mapIdx (fun i p => line i p.name)

/-- An object literal that gives every output an empty text. -/
def outputsLiteral (mark : String) (quote : String) (outputs : List Port) :
    String :=
  "\x7b"
    ++ ", ".intercalate
      ((mark ++ ": \"outputs\"")
        :: outputs.map (fun p => quote ++ p.name ++ quote ++ ": \"\""))
    ++ "\x7d"

/-- The starter of a script. -/
def script (inputs outputs : List Port) : List String :=
  inputLines
      (fun i name => "let " ++ name ++ " = inputs.input_" ++ toString i ++ ";")
      inputs
    ++ ["// write your code here",
      "return " ++ outputsLiteral "labelMarkedForOutputs" "" outputs ++ ";"]

/-- The starter of Python code. -/
def python (inputs outputs : List Port) : List String :=
  inputLines
      (fun i name => name ++ " = inputs[\"input_" ++ toString i ++ "\"]")
      inputs
    ++ ["# write your code here",
      "return "
        ++ outputsLiteral "\"labelMarkedForOutputs\"" "\"" outputs]

/-- The starter of a shell snippet. -/
def shell (inputs : List Port) : List String :=
  inputLines
      (fun i name => "# $INPUT_" ++ toString i ++ " (" ++ name ++ ")") inputs
    ++ ["# write your code here"]

/-- The starter of native code. -/
def native (inputs : List Port) : List String :=
  inputLines
      (fun i name => "// input_" ++ toString i ++ " (" ++ name ++ ")") inputs
    ++ ["// write your code here"]

/-- The lines of the starter for a backend; there are none without one. -/
def lines (backend : Option Backend) (inputs outputs : List Port) :
    List String :=
  match backend with
  | some .script => script inputs outputs
  | some (.interpreter .python) => python inputs outputs
  | some (.interpreter .native) => native inputs
  | some .shell => shell inputs
  | none => []

/-- The starter for a backend. -/
def text (backend : Option Backend) (inputs outputs : List Port) : String :=
  "\n".intercalate (lines backend inputs outputs)

end Starter

namespace Record

/-- The backend of a record, if its kind of code selects one. -/
def backend? (r : Record) : Option Backend := r.codeType?.bind Backend.select?

/-- The language of the code of a record. -/
def codeLanguage (r : Record) : String :=
  match r.backend? with
  | some b => b.language
  | none => "plaintext"

/-- Title and static ports of a record. -/
def outline (r : Record) : Structure := ⟨r.title, r.inputs, r.outputs⟩

/-- What the editor shows for a record. -/
def viewText (r : Record) : Mode → String
  | .outline => r.outline.render
  | .description => r.description
  | .code =>
      if r.code.isEmpty then Starter.text r.backend? r.liveInputs r.outputs
      else r.code

/-- The language that the editor shows a record in. -/
def viewLanguage (r : Record) : Mode → String
  | .outline => "yaml"
  | .description => "plaintext"
  | .code => r.codeLanguage

end Record
end NodeFlow
