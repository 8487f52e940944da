import NodeFlow.CommandLine.Command

/-! # Help

    The help of a command says what it is for, how it is called and what its
    arguments mean, one line for each.  What the lines say starts in one
    column. -/

namespace NodeFlow.CommandLine.Help

/-- A text with blanks after it, up to a width. -/
def padded (width : Nat) (s : String) : String :=
  s ++ String.ofList (List.replicate (width - s.length) ' ')

/-- A line of help: what it is about, and what there is to say. -/
structure Entry where
  /-- What it is about. -/
  label : String
  /-- What there is to say. -/
  about : String
  deriving DecidableEq, Repr

/-- The width of the widest label. -/
def width (entries : List Entry) : Nat :=
  (entries.map (fun e => e.label.length)).foldl max 0

/-- Entries under a heading, with a blank line before it. -/
def listing (heading : String) (width : Nat) (entries : List Entry) :
    String :=
  if entries.isEmpty then ""
  else
    "\n" ++ heading ++ ":\n"
      ++ String.join
        (entries.map (fun e =>
          "  " ++ padded width e.label ++ "  " ++ e.about ++ "\n"))

/-- A parameter with its value. -/
def callOf (p : Parameter) : String :=
  "--" ++ p.long
    ++ (match p.value with
      | some v => " <" ++ v.name ++ ">"
      | none => "")

/-- A parameter with its letter. -/
def labelOf (p : Parameter) : String :=
  (match p.short with
    | some letter => String.ofList ['-', letter, ',', ' ']
    | none => "    ")
    ++ callOf p

/-- What a parameter is for, and its value when it is not given. -/
def aboutOf (p : Parameter) : String :=
  match p.fallback with
  | some value =>
      (if p.about.isEmpty then "" else p.about ++ " ")
        ++ "[default: " ++ value ++ "]"
  | none => p.about

/-- An operand as it is called. -/
def operandLabel (o : Operand) : String :=
  if o.required then "<" ++ o.name ++ ">" else "[" ++ o.name ++ "]"

/-- The flag that asks for help. -/
def helpEntry : Entry := ⟨"-h, --help", "Print help"⟩

/-- The flag that asks for the version. -/
def versionEntry : Entry := ⟨"-V, --version", "Print version"⟩

/-- The help of a command. -/
def ofCommand (g : Grammar Command) : String :=
  let required := g.parameters.filter Parameter.required
  let call :=
    " ".intercalate
      ([programName, g.name, "[OPTIONS]"] ++ required.map callOf
        ++ g.operands.map operandLabel)
  let operands := g.operands.map (fun o => Entry.mk (operandLabel o) o.about)
  let parameters :=
    g.parameters.map (fun p => Entry.mk (labelOf p) (aboutOf p))
      ++ [helpEntry]
  g.about ++ "\n\nUsage: " ++ call ++ "\n"
    ++ listing "Arguments" (width operands) operands
    ++ listing "Options" (width parameters) parameters

/-- The help of the command that gives help. -/
def ofHelp : String :=
  let commands : Entry :=
    ⟨"[COMMAND]...", "Print help for the subcommand(s)"⟩
  "Print this message or the help of the given subcommand(s)\n\nUsage: "
    ++ programName ++ " " ++ helpName ++ " [COMMAND]...\n"
    ++ listing "Arguments" (width [commands]) [commands]

/-- The help of the program. -/
def ofProgram : String :=
  let commands :=
    Command.grammars.map (fun g => Entry.mk g.name g.about)
      ++ [⟨helpName,
        "Print this message or the help of the given subcommand(s)"⟩]
  let parameters :=
    outerGrammar.parameters.map (fun p => Entry.mk (labelOf p) (aboutOf p))
      ++ [helpEntry, versionEntry]
  programAbout ++ "\n\nUsage: " ++ programName ++ " [OPTIONS] <COMMAND>\n"
    ++ listing "Commands" (width commands) commands
    ++ listing "Options" (width parameters) parameters

/-- The help on the commands of these names, one within the other. -/
def about? : List String → Option String
  | [] => some ofProgram
  | [name] =>
      if name = helpName then some ofHelp
      else (Command.grammar? name).map ofCommand
  | _ => none

end NodeFlow.CommandLine.Help
