import NodeFlow.CommandLine.Given

/-! # Commands

    What can be asked for on the command line.  The directory of the settings
    may be named before the command and after it; the name after it counts. -/

namespace NodeFlow.CommandLine

/-- What a command line asks for. -/
inductive Command where
  /-- Run a workflow, and write it back if it is to be saved. -/
  | run (workflow : String) (save : Bool)
  /-- Run code on a backend. -/
  | exec (backend code : String) (inputs : List String)
  /-- Tell which templates there are. -/
  | templates
  /-- Make a workflow of nodes and links. -/
  | create (workflow : String) (nodes links : List String)
  /-- Show one side of a node, or replace it by a text. -/
  | edit (workflow node : String) (mode : Mode) (text : Option String)
  /-- Tell which workflows there are in a directory. -/
  | list (dir : String)
  /-- Tell the settings, and write them if they are to be kept. -/
  | config (keep : Bool)
  deriving DecidableEq, Repr

/-- The name of the program. -/
def programName : String := "polyflow"

/-- The version of the program. -/
def programVersion : String := "0.1.0"

/-- What the program is for. -/
def programAbout : String := "Run and edit polyglot node workflows"

/-- The parameter that names the directory of the settings. -/
def dataDir : Parameter :=
  { long := "data-dir"
    value := some ⟨"DATA_DIR", .path⟩
    about :=
      "Directory holding config.json (defaults to the platform data dir)" }

/-- The operand that names a workflow. -/
def workflowOperand : Operand := { name := "WORKFLOW", kind := .path }

namespace Command

/-- Run a workflow. -/
def runGrammar : Grammar Command :=
  { name := "run"
    about := "Execute every node of a workflow and print the outputs"
    operands := [workflowOperand]
    parameters :=
      [dataDir,
        { long := "save", about := "Write the workflow back after the run" }]
    make := fun g => do some (.run (← g.operands[0]?) (g.has "save")) }

/-- Run code. -/
def execGrammar : Grammar Command :=
  { name := "exec"
    about := "Run a single snippet on a backend"
    operands := [{ name := "CODE", about := "Code, or @file" }]
    parameters :=
      [{ long := "backend"
         short := some 'b'
         value := some ⟨"BACKEND", .text⟩
         required := true
         about := "javascript, python, native or shell" },
        dataDir,
        { long := "input"
          short := some 'i'
          value := some ⟨"INPUTS", .text⟩
          repeats := true
          about := "name=value pairs passed as inputs" }]
    make := fun g => do
      some
        (.exec (← g.value? "backend") (← g.operands[0]?) (g.values "input")) }

/-- Tell which templates there are. -/
def templatesGrammar : Grammar Command :=
  { name := "templates"
    about := "List node templates"
    parameters := [dataDir]
    make := fun _ => some .templates }

/-- Make a workflow. -/
def createGrammar : Grammar Command :=
  { name := "new"
    about := "Create a workflow from node types"
    operands := [workflowOperand]
    parameters :=
      [dataDir,
        { long := "node"
          short := some 'n'
          value := some ⟨"NODES", .text⟩
          repeats := true
          about := "Node type to add, in order (repeatable)" },
        { long := "link"
          short := some 'l'
          value := some ⟨"LINKS", .text⟩
          repeats := true
          about := "FROM:SLOT:TO:SLOT link between record ids (repeatable)" }]
    make := fun g => do
      some (.create (← g.operands[0]?) (g.values "node") (g.values "link")) }

/-- Show or replace one side of a node. -/
def editGrammar : Grammar Command :=
  { name := "edit"
    about := "Show or replace a node's structure, code or description"
    operands :=
      [workflowOperand,
        { name := "TEXT"
          required := false
          about :=
            "New content, or @file; omitted to print the current view" }]
    parameters :=
      [dataDir,
        { long := "node"
          value := some ⟨"NODE", .text⟩
          required := true
          about := "Record id" },
        { long := "mode"
          value := some ⟨"MODE", .mode⟩
          fallback := some Mode.outline.name }]
    make := fun g => do
      let mode ← Mode.ofText? ((g.value? "mode").getD Mode.outline.name)
      some
        (.edit (← g.operands[0]?) (← g.value? "node") mode g.operands[1]?) }

/-- Tell which workflows there are. -/
def listGrammar : Grammar Command :=
  { name := "list"
    about := "List workflow files in a directory"
    operands := [{ name := "DIR", kind := .path }]
    parameters := [dataDir]
    make := fun g => do some (.list (← g.operands[0]?)) }

/-- Tell the settings. -/
def configGrammar : Grammar Command :=
  { name := "config"
    about := "Print the effective configuration"
    parameters :=
      [dataDir,
        { long := "init"
          about := "Write the effective configuration to the data dir" }]
    make := fun g => some (.config (g.has "init")) }

/-- The grammars of all commands. -/
def grammars : List (Grammar Command) :=
  [runGrammar, execGrammar, templatesGrammar, createGrammar, editGrammar,
    listGrammar, configGrammar]

/-- The grammar of a command by its name. -/
def grammar? (name : String) : Option (Grammar Command) :=
  grammars.find? (fun g => g.name == name)

end Command

/-- A command and the directory of its settings. -/
structure Invocation where
  /-- The directory of the settings, if one is named. -/
  dataDir : Option String
  /-- The command. -/
  command : Command
  deriving DecidableEq, Repr

/-- The grammar of what comes before the command. -/
def outerGrammar : Grammar Unit :=
  { name := programName
    about := programAbout
    parameters := [dataDir]
    make := fun _ => some () }

/-- The command that gives help. -/
def helpName : String := "help"

/-- Whether an argument before the command is the command. -/
def isCommandName (arg : String) : Bool :=
  arg = helpName || (Command.grammar? arg).isSome

end NodeFlow.CommandLine
