import NodeFlow.Json.Decode
import NodeFlow.Text.Upper

/-! # Calls of the shell

    Which program runs a snippet depends on the platform; the inputs reach it
    as environment variables. -/

namespace NodeFlow

/-- A program and the arguments before the snippet. -/
structure ShellProgram where
  /-- The program. -/
  program : String
  /-- The arguments. -/
  args : List String
  deriving DecidableEq, Repr

namespace ShellProgram

/-- The shell of a platform. -/
def ofPlatform? : String → Option ShellProgram
  | "windows" => some ⟨"cmd", ["/c"]⟩
  | "macos" => some ⟨"zsh", ["-c"]⟩
  | "linux" | "freebsd" | "openbsd" | "netbsd" | "dragonfly" =>
      some ⟨"bash", ["-c"]⟩
  | _ => none

/-- The same arguments for another program, if one is given. -/
def withProgram (p : ShellProgram) (program : Option String) : ShellProgram :=
  { p with program := program.getD p.program }

/-- All arguments for a snippet. -/
def argv (p : ShellProgram) (code : String) : List String := p.args ++ [code]

end ShellProgram

/-- The environment variables of the inputs, in the order of their keys:
    texts as they are, all else in compact JSON. -/
def inputEnv (inputs : Table String Json) : List (String × String) :=
  inputs.entries.map (fun (key, v) =>
    (Text.upper key, (v.asString?).getD v.compact))

/-- What a program left behind. -/
structure ShellOutput where
  /-- The exit code, if it ended by itself. -/
  code : Option Int
  /-- The signal that ended it, if one did. -/
  signal : Option Int
  /-- What it printed. -/
  stdout : String
  /-- What it printed to the error output. -/
  stderr : String
  deriving DecidableEq, Repr, Inhabited

namespace ShellOutput

/-- Encode an output. -/
def toJson (o : ShellOutput) : Json :=
  .obj
    [("code", (o.code.map Json.ofInt).getD .null),
      ("signal", (o.signal.map Json.ofInt).getD .null),
      ("stderr", .str o.stderr), ("stdout", .str o.stdout)]

/-- Decode an output. -/
def ofJson (v : Json) : Decoded ShellOutput := do
  let fields ← Fields.ofJson "ShellOutput" 4 v
  .ok
    { code := ← fields.getOption 0 "code" Json.toSigned false
      signal := ← fields.getOption 1 "signal" Json.toSigned false
      stdout := ← fields.get 2 "stdout" Json.toText
      stderr := ← fields.get 3 "stderr" Json.toText }

end ShellOutput
end NodeFlow
