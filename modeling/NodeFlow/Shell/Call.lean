import NodeFlow.Shell.Builtin.Jobs
import NodeFlow.Shell.Builtin.Leaving
import NodeFlow.Shell.Builtin.Places
import NodeFlow.Shell.Builtin.Reading
import NodeFlow.Shell.Condition
import NodeFlow.Shell.Printing
import NodeFlow.Shell.Start

/-! # Calling

    A name of a command is looked up: it may lead to a function, to a command
    that the shell knows, or to a program.  A program that is a shell begins
    with nothing but the environment and the streams of the shell that has
    started it.  How a command is run is a parameter here. -/

namespace NodeFlow.Shell

namespace Call

/-- The streams of a shell and the channels that they lead to. -/
abbrev Streams : Type := List (Nat × Nat)

/-- Do something while streams lead to other channels. -/
def speaking (streams : Streams) (act : Act Unit) : Act Unit :=
  during (fun s => { s with streams := streams })
    (fun before s => { s with streams := before.streams }) act

variable (run : Command → Act Unit)

/-! ## Functions -/

/-- Call something that gives up functions that are called too deeply. -/
def guarded (name : String) (act : Act Unit) : Act Unit := do
  let s ← session
  match s.dialect with
  | .plain =>
      if deepestCall ≤ s.calls then
        fault "Maximum function recursion depth (1000) reached"
      else inside (throw (.killed 11)) act
  | .extended =>
      let most := decimalValue ((s.text? "FUNCNEST").getD "").toList
      if 0 < most && most ≤ s.calls then
        protest (name ++ ": maximum function nesting level exceeded ("
          ++ toString most ++ ")")
        giveUp false
      else inside (throw (.killed 11)) act

/-- The shell after a function; `before` is what it was. -/
def afterFunction (before s : Session) : Session :=
  let frame := s.frames.headD default
  { s with
    args := before.args
    frames := s.frames.drop 1
    lent := frame.lent
    calls := before.calls
    loops := before.loops
    above := before.above
    ground := before.ground
    options := if s.dialect = .plain then before.options else s.options
    habits := frame.habits.getD s.habits }

/-- Call a function.  When the function ends the shell, its parameters stay as
    they are. -/
def function (name : String) (f : Function) (args : List String) :
    Act Unit := do
  let before ← session
  let frame : Frame :=
    { name := name, source := f.source, line := before.line
      lent := before.lent }
  let leave : Act Unit := do
    let kept := ((← session).frames.headD default).kept
    restoreVariables kept
    change (afterFunction before)
  guarded name (do
    change (fun s =>
      { s with
        args := args
        frames := frame :: s.frames
        lent := []
        calls := s.calls + 1
        loops := 0
        above := f.above
        ground := f.start
        options := if s.dialect = .plain then {} else s.options })
    tryCatch
      (do
        Event.before run
        run f.body
        match Event.action? (← session) "RETURN" "functrace" with
        | some action => Event.act run "RETURN" action
        | none => pure ())
      (fun flow => do
        match flow with
        | .returns n => setStatus n
        | .ends _ => throw flow
        | flow => do
            leave
            throw flow)
    leave)

/-! ## Shells as programs -/

/-- Run the snippet that can be read from the input. -/
def fromInput : Act Unit := do
  match ← dialect with
  | .plain =>
      let text := (← readAll 0).getD ""
      let _ ← Snippet.ofText (Event.commands run) true text
  | .extended =>
      Snippet.ofInput (Event.commands run) ((← world).patience + 1) 1

/-- The path of a file with a snippet: right here, or in one of the
    directories of programs. -/
def pathOfSnippet (path : String) : Act String := do
  if path.toList.contains '/' then return path
  else
    match ← spotOf path with
    | .vacant _ | .nowhere _ =>
        let s ← session
        let dirs := ((s.text? "PATH").getD "").splitOn ":"
        let found ← dirs.findM? (fun dir => do
          match ← spotOf (dir ++ "/" ++ path) with
          | .file _ => return true
          | _ => return false)
        return match found with
          | some dir => dir ++ "/" ++ path
          | none => path
    | _ => return path

/-- Run the snippet in a file. -/
def fromFile (path : String) : Act Unit := do
  let s ← session
  let content ← contentAt (← pathOfSnippet path)
  let whole (cs : List Char) : Act Unit := do
    change (fun s => { s with name := path, source := path })
    let _ ← Snippet.ofText (Event.commands run) true (String.ofList cs)
  match content, s.dialect with
  | .ok cs, _ => whole cs
  | .error .isDirectory, .plain => whole []
  | .error .isDirectory, .extended =>
      sayLine (path ++ ": " ++ path ++ ": Is a directory")
      throw (.ends 126)
  | .error _, .plain =>
      sayLine (s.name ++ ": 0: cannot open " ++ path ++ ": No such file")
      throw (.ends 2)
  | .error e, .extended =>
      sayLine (s.name ++ ": " ++ path ++ ": " ++ Paths.reason e)
      throw (.ends (if e = .notFound then 127 else 126))

/-- Run the snippet of a shell. -/
def fromOrigin : Origin → Act Unit
  | .nowhere text complaint status => do
      let _ ← printOn 1 text
      let _ ← printOn 2 complaint
      throw (.ends status)
  | .argument code goesOn => do
      let extended ← isExtended
      let _ ← Snippet.ofText (Event.commands run) extended code
      if goesOn then fromInput run
  | .file path => fromFile run path
  | .input => fromInput run

/-- Run a shell up to its end, given as it is before it has seen its
    arguments. -/
def shell (s : Session) (args : List String) : Act Exit := do
  let (s, origin) := Start.withArguments s args
  Apart.elsewhere (fun _ => s)
    (inside (throw .endless) (Event.whole run (fromOrigin run origin)))

/-! ## Programs -/

/-- Run a program at a path under a name, up to its end. -/
def program (path kind name : String) (args : List String) : Act Exit := do
  match dialectOf? kind with
  | some d =>
      let number ← Apart.freshNumber
      shell run (Start.child (← session) number d name path) args
  | none =>
      match kind with
      | "cat" => return .status (← Builtin.cat args)
      | "false" => return .status 1
      | _ => return .status 0

/-- Run a program and go on after it.  When nothing comes after it, it takes
    the place of the shell. -/
def programThen (last : Bool) (outer : Streams) (path kind name : String)
    (args : List String) : Act Unit := do
  unless name.toList.contains '/' do Names.use name path
  let exit ← program run path kind name args
  let s ← session
  match exit with
  | .killed n =>
      if last && s.traps.all (fun e => e.2.isEmpty) then throw (.killed n)
  | .status _ => pure ()
  match s.dialect with
  | .plain => Apart.goOn exit
  | .extended =>
      speaking outer (Apart.goOn exit)

/-- What is said of a name that leads to nothing that can be run, and the
    status after that. -/
def refusal (s : Session) (name : String) : Meaning → String × Nat
  | .file _ => ("Permission denied", 126)
  | .nothing e =>
      match s.dialect, e with
      | .plain, .isDirectory => ("Permission denied", 126)
      | .plain, _ =>
          (if name.isEmpty then "Permission denied" else "not found", 127)
      | .extended, .notFound =>
          let bare := !name.toList.contains '/'
          let searches := !((s.text? "PATH").getD "").isEmpty
          if bare && (searches || name.isEmpty) then ("command not found", 127)
          else (Paths.reason e, 127)
      | .extended, e => (Paths.reason e, 126)
  | _ => ("not found", 127)

/-! ## Commands that the shell knows -/

/-- Arguments as texts. -/
def texts (args : List Argument) : List String :=
  args.map (fun a =>
    match a with
    | .text s => s
    | .list name _ _ => name)

/-- Carry out what a pass over a format has come to. -/
def carryOut (p : Printing.Pass) (put : String → Builtin.Work Nat) :
    Builtin.Work Nat := do
  let mut octets := []
  for effect in p.effects do
    match effect with
    | .prints cs => octets := cs.reverse ++ octets
    | .complains text => liftM (complain ("printf: " ++ text))
    | .counts name => liftM (setText name (toString octets.length))
  let status ← put (String.ofList octets.reverse)
  return max status p.status

/-- Print arguments in a format, or let a parameter have what would be
    printed. -/
def printf (args : List String) : Builtin.Work Nat := do
  let s ← liftM session
  let extended := s.dialect = .extended
  let (options, args) ←
    Builtin.readOptions "printf" (if extended then "v:" else "") args
  let target := Builtin.argumentOf? options 'v'
  let good :=
    match target with
    | none => true
    | some name => isName (Builtin.written name).name
  if !good then
    Builtin.refuse ("printf: \x60" ++ target.getD ""
      ++ "': not a valid identifier") 2
  else
    match args with
    | [] =>
        if extended then Builtin.misuse "printf"
        else Builtin.refuse "printf: usage: printf format [arg ...]" 2
    | format :: rest =>
        let p := Printing.printf s.dialect s.encoding format rest
        carryOut p (fun text =>
          match target with
          | none => Builtin.print "printf" text
          | some name => do
              let w := Builtin.written name
              let given ← liftM (attempt
                (Builtin.assign { w with value := some text }))
              return if given then 0 else 1)

/-- A command that the shell knows and that runs no others. -/
def simple? (name : String) (args : List Argument) :
    Option (Builtin.Work Nat) :=
  let ts := texts args
  match name with
  | ":" | "true" => some (return 0)
  | "false" => some (return 1)
  | "echo" => some (do
      let s ← liftM session
      let usual := s.features.contains "xpg_echo"
      Builtin.print "echo" (Printing.echo s.dialect s.encoding usual ts))
  | "printf" => some (printf ts)
  | "test" => some (liftM (Condition.status "test" ts))
  | "[" => some (liftM (Condition.bracketStatus ts))
  | "export" => some (Builtin.give "export" .exported args)
  | "readonly" => some (Builtin.give "readonly" .fixed args)
  | "declare" | "typeset" => some (Builtin.declare name args)
  | "local" => some (Builtin.localOf args)
  | "unset" => some (Builtin.unset ts)
  | "shift" => some (Builtin.shift ts)
  | "let" => some (Builtin.letOf ts)
  | "getopts" => some (Builtin.getopts ts)
  | "set" => some (Builtin.set ts)
  | "shopt" => some (Builtin.shopt ts)
  | "exit" => some (Builtin.exit ts)
  | "return" => some (Builtin.returnFrom ts)
  | "break" => some (Builtin.leaveLoops "break" ts .leaves)
  | "continue" => some (Builtin.leaveLoops "continue" ts .repeats)
  | "trap" => some (Builtin.trap ts)
  | "kill" => some (Builtin.kill ts)
  | "read" => some (Builtin.read ts)
  | "mapfile" | "readarray" => some (Builtin.mapfile name ts)
  | "type" => some (Builtin.type ts)
  | "alias" => some (Builtin.aliases ts)
  | "unalias" => some (Builtin.unalias ts)
  | "hash" => some (Builtin.hash ts)
  | "enable" => some (Builtin.enable ts)
  | "caller" => some (Builtin.caller ts)
  | "cd" | "chdir" => some (Builtin.cd ts)
  | "pwd" => some (Builtin.pwd ts)
  | "pushd" => some (Builtin.pushd ts)
  | "popd" => some (Builtin.popd ts)
  | "dirs" => some (Builtin.dirs ts)
  | "umask" => some (Builtin.umask ts)
  | "ulimit" => some (Builtin.ulimit ts)
  | "times" => some (Builtin.times ts)
  | "jobs" => some (Builtin.jobs ts)
  | "fg" | "bg" => some (Builtin.resume name ts)
  | "disown" => some (Builtin.disown ts)
  | "help" => some (Builtin.help ts)
  | "compgen" => some (Builtin.compgen ts)
  | "history" | "fc" | "bind" | "complete" | "compopt" | "suspend"
  | "logout" => some (Builtin.forPeople name ts)
  | _ => none

/-- Run what arguments write as a snippet. -/
def evalOf (args : List String) : Builtin.Work Nat := do
  let args ←
    if ← liftM isExtended then Builtin.afterDashes "eval" args else pure args
  let s ← liftM session
  let code := " ".intercalate args
  if ← liftM (Event.text run "eval" (s.line - 1) true code) then
    return (← liftM session).status
  else return 0

/-- Run a snippet in a file at a path. -/
def dotPath (path : String) (cs : List Char) (args : List String) :
    Act Unit := do
  let s ← session
  let extended := s.dialect = .extended
  let frame : Frame :=
    { name := "source", source := path, line := s.line, isFunction := false }
  let given := extended && !args.isEmpty
  let body : Act Unit :=
    tryCatch
      (do
        let ran ← Event.text run path 0 true (String.ofList cs)
        unless ran do setStatus 0)
      (fun flow =>
        match flow with
        | .returns n => setStatus n
        | flow => throw flow)
  during
    (fun s =>
      { s with
        speaker := if extended then "" else path
        asked := extended && s.asked
        frames := if extended then frame :: s.frames else s.frames
        args := if given then args else s.args })
    (fun before s =>
      { s with
        speaker := before.speaker
        asked := before.asked
        frames := before.frames
        args := if given then before.args else s.args })
    body
  if extended then
    match Event.action? (← session) "RETURN" "functrace" with
    | some action => Event.act run "RETURN" action
    | none => return ()

/-- Run a snippet in a file. -/
def dot (command : String) (args : List String) : Builtin.Work Nat := do
  let s ← liftM session
  match s.dialect with
  | .plain =>
      let (_, args) ← Builtin.readOptions command "" args
      match args with
      | [] => return 0
      | path :: _ =>
          let place ← liftM (searched path)
          match ← liftM (contentAt place) with
          | .ok cs =>
              liftM (dotPath run place cs [])
              return (← liftM session).status
          | .error .isDirectory => return 0
          | .error _ =>
              if path.toList.contains '/' then
                Builtin.refuse
                  (".: cannot open " ++ path ++ ": No such file") 2
              else Builtin.refuse (".: " ++ path ++ ": not found") 2
  | .extended =>
      match ← Builtin.afterDashes command args with
      | [] =>
          liftM (complain (command ++ ": filename argument required"))
          Builtin.misuse command
      | path :: rest =>
          let place ← liftM (pathOfSnippet path)
          match ← liftM (contentAt place) with
          | .ok cs =>
              liftM (dotPath run path cs rest)
              return (← liftM session).status
          | .error .isDirectory =>
              Builtin.refuse (command ++ ": " ++ path ++ ": is a directory") 1
          | .error e => Builtin.refuse (path ++ ": " ++ Paths.reason e) 1
where
  /-- The path of a file that may be in one of the directories of programs. -/
  searched (path : String) : Act String := do
    if path.toList.contains '/' then return path
    else
      let s ← session
      let dirs := ((s.text? "PATH").getD "").splitOn ":"
      let paths := dirs.map (fun dir =>
        (if dir.isEmpty then "." else dir) ++ "/" ++ path)
      let found ← paths.findM? (fun p => do
        match ← spotOf p with
        | .file _ => return true
        | _ => return false)
      return found.getD ("/nowhere/" ++ path)

/-- Let a program take the place of the shell. -/
def replace (args : List String) : Builtin.Work Nat := do
  let s ← liftM session
  let extended := s.dialect = .extended
  let (options, args) ←
    if extended then Builtin.readOptions "exec" "cla:" args
    else pure ([], args)
  match args with
  | [] => return 0
  | name :: rest =>
      match ← liftM (Names.programOf name) with
      | .program path kind => do
          let shown := (Builtin.argumentOf? options 'a').getD name
          let shown := if Builtin.has options 'l' then "-" ++ shown else shown
          if Builtin.has options 'c' then
            liftM (change (fun s => { s with store := Table.empty }))
          liftM (change (fun s =>
            { s with traps := s.traps.filter (fun e => e.2.isEmpty) }))
          let exit ← liftM (program run path kind shown rest)
          Builtin.leave (match exit with
            | .status n => .ends n
            | .killed n => .killed n)
      | m => do
          let (reason, status) := refusal s name m
          if extended && status = 126 then
            let path := Paths.top ++ "/" ++ (FilePath.parts name).getLastD ""
            liftM (complain (path ++ ": " ++ reason))
            liftM (complain ("exec: " ++ path ++ ": cannot execute: "
              ++ reason))
          else
            let reason := if status = 127 then "not found" else reason
            liftM (complain ("exec: " ++ name ++ ": " ++ reason))
          if s.features.contains "execfail" then return status
          else Builtin.leave (.ends status)

mutual

/-- Run a command that the shell knows; fuel bounds how many of them are
    named one after the other. -/
def perform : Nat → Bool → Streams → String → List Argument →
    Builtin.Work Nat
  | 0, _, _, _, _ => return 1
  | fuel + 1, last, outer, name, args => do
      match simple? name args with
      | some work => work
      | none =>
          let ts := texts args
          match name with
          | "eval" => evalOf run ts
          | "." | "source" => dot run name ts
          | "exec" => replace run ts
          | "wait" => Builtin.wait run ts
          | "command" =>
              let (options, names) ← Builtin.readOptions "command" "pvV" ts
              let usual := Builtin.has options 'p'
              let looking (on : Bool) : Builtin.Work Unit :=
                liftM (change (fun s => { s with looksAsUsual := on }))
              if Builtin.has options 'v' || Builtin.has options 'V' then
                looking usual
                let status ← Builtin.tell (Builtin.has options 'V') names
                looking false
                return status
              else
                match names with
                | [] => return 0
                | name :: rest =>
                    looking usual
                    liftM (named fuel true false last outer name
                      (rest.map .text))
                    return (← liftM session).status
          | "builtin" =>
              match ← Builtin.afterDashes "builtin" ts with
              | [] => return 0
              | name :: rest =>
                  if Names.isBuiltin (← liftM session) name then
                    liftM (known fuel false last outer name (rest.map .text))
                    return (← liftM session).status
                  else
                    Builtin.refuse
                      ("builtin: " ++ name ++ ": not a shell builtin") 1
          | _ => return 0

/-- Run a command that the shell knows.  When it is given up in the plain
    family, the shell goes on, unless the command is a `special` one. -/
def known : Nat → Bool → Bool → Streams → String → List Argument →
    Act Unit
  | 0, _, _, _, _, _ => setStatus 1
  | fuel + 1, special, last, outer, name, args => do
      let before ← session
      let runs := ["eval", ".", "source", "command", "builtin"].contains name
      let speaker :=
        if before.dialect = .extended && runs then ""
        else if name = "command" then before.speaker
        else name
      change (fun s => { s with speaker := speaker })
      let back : Act Unit := change (fun s =>
        { s with speaker := before.speaker })
      tryCatch
        (do
          match ← (perform fuel last outer name args).run with
          | .ok n | .error n => setStatus n)
        (fun flow => do
          back
          match flow, before.dialect with
          | .abandons, .plain =>
              if special then throw flow else setStatus 2
          | flow, _ => throw flow)
      back

/-- Run a command by its name; no function if `bare`. -/
def named : Nat → Bool → Bool → Bool → Streams → String →
    List Argument → Act Unit
  | 0, _, _, _, _, _, _ => setStatus 1
  | fuel + 1, bare, special, last, outer, name, args => do
      let meaning ← Names.meaningOf bare name
      change (fun s => { s with looksAsUsual := false })
      match meaning with
      | .function f => function run name f (texts args)
      | .builtin => known fuel special last outer name args
      | .program path kind =>
          programThen run last outer path kind name (texts args)
      | m => do
          let s ← session
          let (reason, status) := refusal s name m
          let handler := "command_not_found_handle"
          match (if reason = "command not found" then
              s.functions.get? handler else none) with
          | some f =>
              let exit ← Apart.shell run (← Apart.freshNumber) id
                (function run handler f (name :: texts args))
              Apart.goOn exit
          | none =>
              protest (name ++ ": " ++ reason)
              setStatus status

end

/-- Run a command by its name. -/
def byName (special last : Bool) (outer : Streams) (name : String)
    (args : List Argument) : Act Unit :=
  named run (2 * args.length + 8) false special last outer name args

end Call
end NodeFlow.Shell
