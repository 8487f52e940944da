import NodeFlow.Json.Decode
import NodeFlow.Json.Shape

/-! # Configuration

    Every setting has a default, so that a document may name any part of
    them.  The encoded form lists the settings in the order in which the
    document is printed. -/

namespace NodeFlow

/-- What to do when a node is triggered while it runs. -/
inductive OverlapPolicy where
  /-- Ignore the new trigger. -/
  | drop
  /-- Wait for the running execution, then run again. -/
  | queue
  deriving DecidableEq, Repr, Inhabited

namespace OverlapPolicy

/-- The name of a policy. -/
def name : OverlapPolicy → String
  | .drop => "drop"
  | .queue => "queue"

/-- The policy of a name. -/
def ofName : String → Decoded OverlapPolicy
  | "drop" => .ok .drop
  | "queue" => .ok .queue
  | other => .error (.unknownName other ["drop", "queue"])

/-- Decode a policy: its name, or an object with its name as only member and
    no value. -/
def ofJson : Json → Decoded OverlapPolicy
  | .str s => ofName s
  | .obj [(n, .null)] => ofName n
  | .obj [(n, v)] => do
      let _ ← ofName n
      .error (.wrongKind v "unit")
  | v => .error (.wrongKind v "string or map")

end OverlapPolicy

/-- The command that starts an interpreter. -/
structure InterpreterCommand where
  /-- The program. -/
  program : String
  /-- Its arguments. -/
  args : List String := []
  deriving DecidableEq, Repr, Inhabited

namespace InterpreterCommand

/-- Encode a command. -/
def toJson (c : InterpreterCommand) : Json :=
  .obj [("program", .str c.program), ("args", .arr (c.args.map Json.str))]

/-- Decode a command. -/
def ofJson (v : Json) : Decoded InterpreterCommand := do
  let fields ← Fields.ofJson "InterpreterCommand" 2 v
  .ok
    { program := ← fields.get 0 "program" Json.toText
      args := ← fields.getD 1 "args" (Json.toList Json.toText) [] }

/-- What is wanted of a command in a text. -/
def shape : Json.Shape := .record [("program", .any), ("args", .any)] false

end InterpreterCommand

/-- The settings of the execution side. -/
structure EngineConfig where
  /-- Milliseconds that one script may take. -/
  scriptTimeout : Nat := 5000
  /-- Rounds that the loops of one script may take. -/
  scriptLoopLimit : Nat := 10000000
  /-- Milliseconds that one program may take. -/
  bridgeTimeout : Nat := 30000
  /-- What happens to overlapping triggers. -/
  overlap : OverlapPolicy := .drop
  /-- The program in place of the shell of the platform. -/
  shellProgram : Option String := none
  /-- The commands of the interpreters. -/
  interpreters : Table String InterpreterCommand := Table.empty
  deriving DecidableEq, Repr, Inhabited

namespace EngineConfig

/-- Encode the settings. -/
def toJson (c : EngineConfig) : Json :=
  .obj
    [("script_timeout_ms", .ofNat c.scriptTimeout),
      ("script_loop_limit", .ofNat c.scriptLoopLimit),
      ("bridge_timeout_ms", .ofNat c.bridgeTimeout),
      ("overlap_policy", .str c.overlap.name),
      ("shell_program", (c.shellProgram.map Json.str).getD .null),
      ("interpreters",
        .ofTable (c.interpreters.mapValues InterpreterCommand.toJson))]

/-- Decode the settings. -/
def ofJson (v : Json) : Decoded EngineConfig := do
  let fields ← Fields.ofJson "EngineConfig" 6 v
  .ok
    { scriptTimeout := ← fields.getD 0 "script_timeout_ms" Json.toWord 5000
      scriptLoopLimit :=
        ← fields.getD 1 "script_loop_limit" Json.toWord 10000000
      bridgeTimeout := ← fields.getD 2 "bridge_timeout_ms" Json.toWord 30000
      overlap := ← fields.getD 3 "overlap_policy" OverlapPolicy.ofJson .drop
      shellProgram := ← fields.getOption 4 "shell_program" Json.toText true
      interpreters :=
        ← fields.getD 5 "interpreters"
          (Json.toTable InterpreterCommand.ofJson) Table.empty }

/-- What is wanted of the settings in a text. -/
def shape : Json.Shape :=
  .record
    [("script_timeout_ms", .any), ("script_loop_limit", .any),
      ("bridge_timeout_ms", .any), ("overlap_policy", .sole),
      ("shell_program", .any),
      ("interpreters",
        .dict InterpreterCommand.shape
          (fun v => (InterpreterCommand.ofJson v).isOk))]
    false

end EngineConfig

/-- The settings of the editor. -/
structure EditorConfig where
  /-- Milliseconds without a keystroke before an edit is saved. -/
  debounce : Nat := 1000
  deriving DecidableEq, Repr, Inhabited

namespace EditorConfig

/-- Encode the settings. -/
def toJson (c : EditorConfig) : Json :=
  .obj [("debounce_ms", .ofNat c.debounce)]

/-- Decode the settings. -/
def ofJson (v : Json) : Decoded EditorConfig := do
  let fields ← Fields.ofJson "EditorConfig" 1 v
  .ok { debounce := ← fields.getD 0 "debounce_ms" Json.toWord 1000 }

end EditorConfig

/-- All settings. -/
structure AppConfig where
  /-- The settings of the execution side. -/
  engine : EngineConfig := {}
  /-- The settings of the editor. -/
  editor : EditorConfig := {}
  deriving DecidableEq, Repr, Inhabited

namespace AppConfig

/-- Encode the settings. -/
def toJson (c : AppConfig) : Json :=
  .obj [("engine", c.engine.toJson), ("editor", c.editor.toJson)]

/-- Decode the settings. -/
def ofJson (v : Json) : Decoded AppConfig := do
  let fields ← Fields.ofJson "AppConfig" 2 v
  .ok
    { engine := ← fields.getD 0 "engine" EngineConfig.ofJson {}
      editor := ← fields.getD 1 "editor" EditorConfig.ofJson {} }

/-- What is wanted of the settings in a text. -/
def shape : Json.Shape :=
  .record
    [("engine", EngineConfig.shape),
      ("editor", .record [("debounce_ms", .any)] false)]
    false

/-- The settings that a text holds; `none` when it holds none. -/
def ofText? (s : String) : Option AppConfig := do
  (AppConfig.ofJson (← Json.readAs shape s)).toOption

end AppConfig
end NodeFlow
