import NodeFlow.Text.Blank

/-! # Backends

    The kind of code of a node selects the backend that runs it: the script
    evaluator, an external interpreter, or the shell.  A run can fail for
    reasons that lie outside the code; these are the failures. -/

namespace NodeFlow

/-- Why code could not be run. -/
inductive Failure where
  /-- No backend has this name. -/
  | unknownBackend (name : String)
  /-- No shell is known for the platform. -/
  | platformUnknown (platform : String)
  /-- The program does not exist. -/
  | programNotFound (program : String)
  /-- Talking to the program went wrong. -/
  | bridge (detail : String)
  /-- The run took longer than so many milliseconds. -/
  | timeout (limit : Nat)
  deriving DecidableEq, Repr

/-- The wording of a failure. -/
def Failure.message : Failure → String
  | .unknownBackend name => "Unknown backend: '" ++ name ++ "'"
  | .platformUnknown platform =>
      "No shell known for platform '" ++ platform ++ "'"
  | .programNotFound program => "Program not found: " ++ program
  | .bridge detail => "Bridge error: " ++ detail
  | .timeout limit =>
      "Execution timed out after " ++ toString limit ++ "ms"

/-- An external interpreter. -/
inductive Interpreter where
  /-- Python. -/
  | python
  /-- Whatever is configured as the native interpreter. -/
  | native
  deriving DecidableEq, Repr

/-- The identifier of an interpreter in the configuration. -/
def Interpreter.id : Interpreter → String
  | .python => "python"
  | .native => "native"

/-- What runs the code of a node. -/
inductive Backend where
  /-- The script evaluator. -/
  | script
  /-- An external interpreter. -/
  | interpreter (which : Interpreter)
  /-- The shell. -/
  | shell
  deriving DecidableEq, Repr

namespace Backend

/-- The name of a backend. -/
def name : Backend → String
  | .script => "host-script"
  | .interpreter i => "interpreter:" ++ i.id
  | .shell => "shell"

/-- The language of the code that a backend runs. -/
def language : Backend → String
  | .script => "javascript"
  | .interpreter .python => "python"
  | .interpreter .native => "rust"
  | .shell => "shell"

/-- The backend of a word in lower case. -/
def ofWord? : String → Option Backend
  | "javascript" | "js" => some .script
  | "python" | "py" => some (.interpreter .python)
  | "native" | "rust" => some (.interpreter .native)
  | "shell" | "sh" | "bash" => some .shell
  | _ => none

/-- The backend that a kind of code selects: blanks around it and the case
    of ASCII letters do not count. -/
def select (codeType : String) : Except Failure Backend :=
  let word :=
    String.ofList ((Text.trimChars codeType.toList).map Char.toLower)
  match ofWord? word with
  | some b => .ok b
  | none => .error (.unknownBackend codeType)

/-- The backend that a kind of code selects, if it selects one. -/
def select? (codeType : String) : Option Backend :=
  (select codeType).toOption

end Backend
end NodeFlow
