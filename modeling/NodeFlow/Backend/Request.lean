import NodeFlow.Backend.Envelope
import NodeFlow.Backend.ShellCall

/-! # Requests

    What a backend is asked to run for a node.  The answer to a request is a
    result, or the reason why there is none. -/

namespace NodeFlow

/-- What a backend is asked to run. -/
inductive Request where
  /-- A script with its inputs. -/
  | script (code : String) (inputs : Table String Json)
  /-- Code for an external interpreter with its inputs. -/
  | interpreter (which : Interpreter) (code : String)
      (inputs : Table String Json)
  /-- A program with arguments and environment variables. -/
  | shell (program : String) (args : List String)
      (env : List (String × String))
  deriving DecidableEq, Repr

/-- The answer to a request. -/
abbrev Reply : Type := Except Failure Result

/-- What the execution side is told about its surroundings. -/
structure Surroundings where
  /-- The platform that selects the shell. -/
  platform : String := "linux"
  /-- The program in place of the shell of the platform. -/
  shellProgram : Option String := none
  deriving DecidableEq, Repr, Inhabited

namespace Request

/-- The request for a snippet of the shell. -/
def ofSnippet (s : Surroundings) (code : String)
    (inputs : Table String Json) : Except Failure Request :=
  match ShellProgram.ofPlatform? s.platform with
  | none => .error (.platformUnknown s.platform)
  | some known =>
      let shell := known.withProgram s.shellProgram
      .ok (.shell shell.program (shell.argv code) (inputEnv inputs))

/-- The request for code on a backend. -/
def ofCode (s : Surroundings) (backend : Backend) (code : String)
    (inputs : Table String Json) : Except Failure Request :=
  match backend with
  | .script => .ok (.script code inputs)
  | .interpreter which => .ok (.interpreter which code inputs)
  | .shell => ofSnippet s code inputs

end Request

/-- The result that the output of a program stands for. -/
def ShellOutput.result (o : ShellOutput) : Result := .single o.toJson

end NodeFlow
