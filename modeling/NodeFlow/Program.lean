import NodeFlow.Backend.Commands
import NodeFlow.Backend.Request
import NodeFlow.Script.Result
import NodeFlow.Shell.Run

/-! # Programs

    A program is started with arguments, environment variables and an input,
    and leaves behind what it printed and how it ended.  The programs there
    are: two shells, and those that copy their input, succeed and fail.

    An interpreter is a program that is sent a request in JSON.  A script is
    run in place. -/

namespace NodeFlow

/-- What starts a program. -/
structure Launch where
  /-- The program. -/
  program : String
  /-- The arguments. -/
  args : List String
  /-- The environment variables; of two with one name the last counts. -/
  env : List (String × String) := []
  /-- The input. -/
  input : List Nat := []

namespace Launch

/-- Whether there is such a program. -/
def isKnown (l : Launch) : Bool :=
  Shell.Paths.programs.contains (Shell.baseName l.program)

/-- Whether a text can be handed to a program. -/
def isPassable (s : String) : Bool := !s.toList.contains (Char.ofNat 0)

/-- Whether everything can be handed to the program. -/
def canStart (l : Launch) : Bool :=
  l.args.all isPassable
    && l.env.all (fun e => isPassable e.1 && isPassable e.2)

/-- The environment that there is anyway. -/
def surroundings : List (String × String) :=
  [("HOME", "/root"), ("PATH", Shell.Names.usualPath)]

/-- The directories of programs that the environment names. -/
def directories (l : Launch) : List String :=
  match (l.env.reverse.find? (fun e => e.1 == "PATH")).map (·.2) with
  | some path => path.splitOn ":"
  | none => Shell.Names.usualPath.splitOn ":"

/-- The path of the program, if it can be found. -/
def path? (l : Launch) : Option String :=
  if l.program.toList.contains '/' then some l.program
  else
    (l.directories.find? Shell.Paths.programDirectories.contains).map
      (fun dir => dir ++ "/" ++ l.program)

/-- How many commands may be run before a program is known not to end in
    time. -/
def patience : Nat := 400000

/-- Run a program at a path to its end. -/
def finish (l : Launch) (path : String) (files : FileTree) : Shell.Remains :=
  let octets (s : String) : String := Shell.Octets.ofText s
  let env := (surroundings ++ l.env).map (fun e => (octets e.1, octets e.2))
  let input := l.input.map Char.ofNat
  Shell.finish (.starting env input files patience) path
    (Shell.baseName l.program) l.program (l.args.map octets)

/-- What a program leaves behind, and the files after it.  Nothing ends
    within no time at all. -/
def run (l : Launch) (limit : Nat) (files : FileTree) :
    Except Failure ShellOutput × FileTree :=
  let notStarted (reason : String) : Failure :=
    .bridge ("failed to spawn '" ++ l.program ++ "': " ++ reason)
  if !l.isKnown then (.error (.programNotFound l.program), files)
  else if !l.canStart then
    (.error (notStarted "nul byte found in provided data"), files)
  else
    match l.path? with
    | none =>
        (.error (notStarted "No such file or directory (os error 2)"), files)
    | some path =>
        if limit = 0 then (.error (.timeout limit), files)
        else
          let r := l.finish path files
          let output (code signal : Option Int) : ShellOutput :=
            ⟨code, signal, r.output, r.errors⟩
          match r.exit with
          | none => (.error (.timeout limit), r.files)
          | some (.killed n) => (.ok (output none (some n)), r.files)
          | some (.status n) => (.ok (output (some n) none), r.files)

end Launch

/-- Access to programs. -/
class Programs (m : Type → Type) where
  /-- What a program leaves behind that may take so many milliseconds. -/
  launch : Launch → Nat → m (Except Failure ShellOutput)

instance : Programs (StateM FileTree) := ⟨fun l limit => l.run limit⟩

/-! ## Interpreters -/

namespace Interpretation

/-- The request that an interpreter is sent. -/
def request (code : String) (inputs : Table String Json) : String :=
  (Json.obj [("code", .str code), ("inputs", .ofTable inputs)]).compact

/-- How a program ended, in words. -/
def ending (o : ShellOutput) : String :=
  match o.signal with
  | some n =>
      "signal: " ++ toString n
        ++ (match Shell.Signal.names[n.toNat - 1]? with
          | some name => " (SIG" ++ name ++ ")"
          | none => "")
  | none => "exit status: " ++ toString (o.code.getD 0)

/-- The envelope in the output of an interpreter.  If there is none, a failed
    program is the greater fault. -/
def reply (id : String) (o : ShellOutput) : Except Failure Envelope :=
  match Envelope.ofOutput o.stdout with
  | .ok e => .ok e
  | .error e =>
      if o.code = some 0 then .error e
      else
        .error
          (.bridge
            ("interpreter '" ++ id ++ "' exited with " ++ ending o ++ ": "
              ++ Text.trim o.stderr))

/-- Let an interpreter run code. -/
def run {m : Type → Type} [Monad m] [Programs m] (config : EngineConfig)
    (id code : String) (inputs : Table String Json) :
    m (Except Failure Envelope) := do
  match config.command? id with
  | none =>
      pure (.error (.bridge ("no interpreter configured for '" ++ id ++ "'")))
  | some command =>
      let launch : Launch :=
        { program := command.program
          args := command.args
          input := Text.octets (request code inputs) }
      match ← Programs.launch launch config.bridgeTimeout with
      | .ok o => pure (reply id o)
      | .error e => pure (.error e)

end Interpretation

/-! ## Replies to requests -/

namespace Request

/-- The reply to a request, with the settings given. -/
def answer {m : Type → Type} [Monad m] [Programs m] (config : EngineConfig) :
    Request → m Reply
  | .script code inputs =>
      pure (Script.run (Script.Limits.ofConfig config) code inputs)
  | .interpreter which code inputs => do
      let envelope ← Interpretation.run config which.id code inputs
      pure (envelope.map Envelope.result)
  | .shell program args env => do
      let output ← Programs.launch ⟨program, args, env, []⟩ config.bridgeTimeout
      pure (output.map ShellOutput.result)

end Request

namespace Snippet

/-- The reply to code that belongs to no node, on a backend by its name. -/
def reply {m : Type → Type} [Monad m] [Programs m] (config : EngineConfig)
    (backend code : String) (inputs : Table String Json) : m Reply :=
  let surroundings : Surroundings := { shellProgram := config.shellProgram }
  match Backend.select backend >>= fun b =>
      Request.ofCode surroundings b code inputs with
  | .error e => pure (.error e)
  | .ok request => request.answer config

end Snippet
end NodeFlow
