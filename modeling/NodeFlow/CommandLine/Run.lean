import NodeFlow.CommandLine.Help
import NodeFlow.Host.Basic
import NodeFlow.Host.ConfigFile

/-! # Running a command line

    A command line asks for a command, or for a text about the program.  The
    settings are read before anything else.  What a command prints before
    it fails stays printed. -/

namespace NodeFlow.CommandLine

/-! ## What is asked for -/

/-- What a command line asks for. -/
inductive Asked where
  /-- A command. -/
  | command (i : Invocation)
  /-- A text about the program. -/
  | about (text : String)
  deriving DecidableEq, Repr

namespace Asked

/-- What the arguments of a command ask for. -/
def ofCommand (g : Grammar Command) (outer : Given) (args : List String) :
    Option Asked :=
  match Given.read g false (fun _ => false) {} args with
  | .error .help => some (.about (Help.ofCommand g))
  | .error _ => none
  | .ok (given, _) =>
      if g.isSatisfied given then
        let dir :=
          (given.value? dataDir.long).orElse
            (fun _ => outer.value? dataDir.long)
        (g.make given).map (fun c => .command ⟨dir, c⟩)
      else none

/-- What arguments ask for; `none` when they are misused. -/
def ofArgs? (args : List String) : Option Asked :=
  match Given.read outerGrammar true isCommandName {} args with
  | .error .misuse => none
  | .error .help => some (.about Help.ofProgram)
  | .error .version =>
      some (.about (programName ++ " " ++ programVersion ++ "\n"))
  | .ok (_, []) => none
  | .ok (outer, name :: rest) =>
      if name = helpName then (Help.about? rest).map .about
      else (Command.grammar? name).bind (fun g => ofCommand g outer rest)

end Asked

/-! ## What is done -/

/-- Why a command failed. -/
inductive CommandError where
  /-- The host could not do what it was told. -/
  | host (e : HostError)
  /-- The settings could not be read or written. -/
  | config (e : ConfigFileError)
  deriving DecidableEq, Repr

/-- The wording of an error. -/
def CommandError.message : CommandError → String
  | .host e => e.message
  | .config e => e.message

/-- What a command printed, and why it failed if it did. -/
structure Performance where
  /-- What it printed. -/
  output : String := ""
  /-- Why it failed. -/
  error : Option CommandError := none
  deriving DecidableEq, Repr, Inhabited

namespace Performance

/-- A command that printed lines. -/
def ofLines (ls : List String) : Performance :=
  { output := String.join (ls.map (fun l => l ++ "\n")) }

/-- A command that printed a value. -/
def ofJson (v : Json) : Performance := ofLines [v.indented]

/-- A command that the host failed. -/
def failed (e : HostError) : Performance := { error := some (.host e) }

/-- A command that goes on after printing, up to a failure. -/
def andThen (p : Performance) (rest : Except HostError Unit) : Performance :=
  match rest with
  | .ok () => p
  | .error e => { p with error := some (.host e) }

end Performance

variable {m : Type → Type} [Monad m] [Files m] [Programs m]

/-- Run a workflow. -/
def performRun (config : AppConfig) (clock : Timestamp) (workflow : String)
    (save : Bool) : m Performance := do
  match ← Host.load config clock workflow with
  | .error e => pure (.failed e)
  | .ok h =>
      let (reports, h) ← h.run
      let printed :=
        Performance.ofJson (.arr (reports.map NodeReport.toJson))
      if save then pure (printed.andThen (← h.save workflow))
      else pure printed

/-- Run code. -/
def performExec (config : AppConfig) (backend code : String)
    (inputs : List String) : m Performance := do
  match ← Argument.text code with
  | .error e => pure (.failed e)
  | .ok code =>
      match Argument.inputs inputs with
      | .error e => pure (.failed e)
      | .ok inputs =>
          match ← Snippet.reply config.engine backend code inputs with
          | .error e => pure (.failed (.execution e))
          | .ok result => pure (.ofJson result.toJson)

/-- The line of a template. -/
def templateLine (t : Template) : String :=
  Help.padded 20 t.nodeType ++ " " ++ Help.padded 12 (t.codeType.getD "-")
    ++ " " ++ t.title

/-- A workflow of nodes and links. -/
def build (h : Host) (nodes links : List String) :
    Except HostError (List String × Host) := do
  let (ids, h) ← h.addNodes nodes
  .ok (ids, ← links.foldlM Host.connect h)

/-- Make a workflow. -/
def performCreate (config : AppConfig) (clock : Timestamp)
    (workflow : String) (nodes links : List String) : m Performance := do
  match build { config := config, clock := clock } nodes links with
  | .error e => pure (.failed e)
  | .ok (ids, h) =>
      match ← h.save workflow with
      | .error e => pure (.failed e)
      | .ok () =>
          pure
            (.ofLines
              ["Created " ++ workflow ++ " with nodes "
                ++ ", ".intercalate ids])

/-- Show or replace one side of a node. -/
def performEdit (config : AppConfig) (clock : Timestamp)
    (workflow node : String) (mode : Mode) (text : Option String) :
    m Performance := do
  match ← Host.load config clock workflow with
  | .error e => pure (.failed e)
  | .ok h =>
      match text with
      | none =>
          match h.view node mode with
          | .error e => pure (.failed e)
          | .ok shown => pure (.ofLines [shown])
      | some arg =>
          match ← Argument.text arg with
          | .error e => pure (.failed e)
          | .ok text =>
              match h.edit node mode text with
              | (.error e, _) => pure (.failed e)
              | (.ok (), h) =>
                  pure (({} : Performance).andThen (← h.save workflow))

/-- Tell the settings, and write them first if they are to be kept. -/
def performConfig (dir : Option String) (config : AppConfig) (keep : Bool) :
    m Performance := do
  match dir.filter (fun _ => keep) with
  | none => pure (.ofJson config.toJson)
  | some dir =>
      match ← ConfigFile.save dir config with
      | .error e => pure { error := some (.config e) }
      | .ok () => pure (.ofJson config.toJson)

/-- Perform a command. -/
def perform (dir : Option String) (config : AppConfig) (clock : Timestamp) :
    Command → m Performance
  | .run workflow save => performRun config clock workflow save
  | .exec backend code inputs => performExec config backend code inputs
  | .templates =>
      pure (.ofLines (Registry.builtin.templates.values.map templateLine))
  | .create workflow nodes links =>
      performCreate config clock workflow nodes links
  | .edit workflow node mode text =>
      performEdit config clock workflow node mode text
  | .list path => do
      match ← WorkflowFile.list path with
      | .error e => pure (.failed (.file e))
      | .ok paths => pure (.ofLines paths)
  | .config keep => performConfig dir config keep

/-- The settings in a directory, if there is one. -/
def settings (dir : Option String) : m (Except ConfigFileError AppConfig) :=
  match dir with
  | some dir => ConfigFile.load dir
  | none => pure (.ok {})

/-- How a command line ended. -/
structure Ending where
  /-- The exit status. -/
  status : Nat
  /-- What was printed. -/
  output : String := ""
  /-- What went wrong with a command. -/
  message : Option String := none
  deriving DecidableEq, Repr, Inhabited

/-- How a command ended. -/
def Ending.ofPerformance (p : Performance) : Ending :=
  { status := if p.error.isSome then 1 else 0
    output := p.output
    message := p.error.map CommandError.message }

/-- Read the settings and perform a command. -/
def invoke (platformDir : Option String) (clock : Timestamp)
    (i : Invocation) : m Ending := do
  let dir := i.dataDir.orElse (fun _ => platformDir)
  match ← settings dir with
  | .error e => pure (.ofPerformance { error := some (.config e) })
  | .ok config => pure (.ofPerformance (← perform dir config clock i.command))

/-- Run a command line; `platformDir` is the directory of the settings when
    none is named. -/
def run (platformDir : Option String) (clock : Timestamp)
    (args : List String) : m Ending :=
  match Asked.ofArgs? args with
  | none => pure { status := 2 }
  | some (.about text) => pure { status := 0, output := text }
  | some (.command i) => invoke platformDir clock i

end NodeFlow.CommandLine
