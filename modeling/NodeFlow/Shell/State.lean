import NodeFlow.Files.Tree
import NodeFlow.Shell.Variable

/-! # The state of a shell

    A shell has parameters, functions, habits and streams.  Shells that run
    inside one another share a world: the files, what has been printed, and
    what can still be read.  The streams of a shell have numbers, which lead to
    channels of the world. -/

namespace NodeFlow.Shell

/-- Where octets come from or go to. -/
inductive Channel where
  /-- What is printed is kept, the last first. -/
  | sink (printed : List String)
  /-- These characters can still be read. -/
  | source (rest : List Char)
  /-- A file, from a place on; when `atEnd`, written behind its end. -/
  | file (way : FileTree.Way) (place : Nat) (reads writes atEnd : Bool)
  /-- Nothing comes from here, and what goes here is lost. -/
  | void
  /-- Nothing more can go here. -/
  | full
  deriving Repr, Inhabited

/-- How a shell stops what it does. -/
inductive Flow where
  /-- It ends with a status. -/
  | ends (status : Nat)
  /-- A signal has ended it. -/
  | killed (signal : Nat)
  /-- It goes on for too long. -/
  | endless
  /-- So many loops are left. -/
  | leaves (levels : Nat)
  /-- The loop so many levels up goes on with its next round. -/
  | repeats (levels : Nat)
  /-- A function returns. -/
  | returns (status : Nat)
  /-- The line is given up; in the plain family, the whole snippet, unless the
      command that is being run stands for itself. -/
  | abandons
  deriving DecidableEq, Repr

/-- How a shell has ended. -/
inductive Exit where
  /-- With a status. -/
  | status (n : Nat)
  /-- By a signal. -/
  | killed (signal : Nat)
  deriving DecidableEq, Repr, Inhabited

/-- Where a shell works: at a place among the files, or somewhere else. -/
inductive Location where
  /-- At a place among the files. -/
  | inside (way : FileTree.Way)
  /-- Somewhere else. -/
  | outside (path : String)
  deriving DecidableEq, Repr, Inhabited

/-- What is run and has been called by something else. -/
structure Frame where
  /-- The name of the function; empty for a snippet in a file. -/
  name : String
  /-- Where the function comes from. -/
  source : String
  /-- The line that has called it. -/
  line : Nat
  /-- The values that parameters had before they got others for the time of
      the call. -/
  kept : List (String × Option Variable) := []
  /-- The values that parameters had before they got others for the time of
      commands that have led to the call, the innermost first. -/
  lent : List (List (String × Option Variable)) := []
  /-- The habits that come back after the call, if they do. -/
  habits : Option (List String) := none
  /-- Whether it is a function. -/
  isFunction : Bool := true
  deriving Inhabited

/-- A function. -/
structure Function where
  /-- What it does. -/
  body : Command
  /-- Where it comes from. -/
  source : String
  /-- The line on which it begins. -/
  line : Nat
  /-- The line on which what it does begins. -/
  start : Nat
  /-- The lines above the snippet in which it stands. -/
  above : Nat := 0
  /-- Whether programs get to know it. -/
  exported : Bool := false
  /-- Whether it may not change. -/
  fixed : Bool := false
  deriving Inhabited

/-- How far options have been taken from arguments. -/
structure OptionPlace where
  /-- The number of the next argument. -/
  next : Nat := 1
  /-- The letters of the argument before that are left. -/
  letters : List Char := []
  deriving DecidableEq, Repr, Inhabited

/-- A shell. -/
structure Session where
  /-- Its family. -/
  dialect : Dialect
  /-- Its name. -/
  name : String
  /-- Its arguments. -/
  args : List String := []
  /-- What complaints about faults in its snippet call the snippet. -/
  source : String := ""
  /-- What stands before complaints besides. -/
  speaker : String := ""
  /-- The line of the command. -/
  line : Nat := 1
  /-- The line that counts for commands without a line of their own. -/
  ground : Nat := 1
  /-- The command, if it is a simple one. -/
  current : Option Command := none
  /-- The lines above the snippet. -/
  above : Nat := 0
  /-- The named parameters. -/
  store : Variables := Table.empty
  /-- The functions. -/
  functions : Table String Function := Table.empty
  /-- What stands for commands by their names. -/
  aliases : Table String String := Table.empty
  /-- The habits it has been told to have. -/
  habits : List String := []
  /-- The further features it has been told to have. -/
  features : List String := []
  /-- What to do for signals and other events, by their names; nothing, if it
      is empty. -/
  traps : List (String × String) := []
  /-- The signals that have done nothing since before its start, by their
      names. -/
  deaf : List String := []
  /-- The signals that do nothing to it itself until it is told what to do
      about them, by their names. -/
  calm : List String := []
  /-- The status of the last command. -/
  status : Nat := 0
  /-- The statuses of the commands of the last pipeline. -/
  statuses : List Nat := []
  /-- The status of the commands that a word of this command has run. -/
  wordStatus : Option Nat := none
  /-- The last argument of the last command. -/
  lastArgument : String := ""
  /-- The loops around the command. -/
  loops : Nat := 0
  /-- The functions and files around the command, the innermost first. -/
  frames : List Frame := []
  /-- The values that parameters had before they got others for the time of
      commands in the function, the innermost first. -/
  lent : List (List (String × Option Variable)) := []
  /-- How many functions are being called inside one another. -/
  calls : Nat := 0
  /-- Whether something asks if the command succeeds. -/
  asked : Bool := false
  /-- Whether nothing comes after the command, so that a program may take the
      place of the shell. -/
  last : Bool := false
  /-- Whether what it prints becomes a part of a word. -/
  inWord : Bool := false
  /-- The events whose traps are being run. -/
  trapped : List String := []
  /-- What the shell around it does in events, as long as it has been told
      nothing itself. -/
  formerTraps : List (String × String) := []
  /-- The channels that its streams lead to. -/
  streams : List (Nat × Nat) := []
  /-- Where it works. -/
  location : Location := .inside []
  /-- Where it has worked before. -/
  formerLocation : Location := .inside []
  /-- How far it has taken options. -/
  options : OptionPlace := {}
  /-- Its number. -/
  number : Nat := 4194303
  /-- The number of the shell in which it has begun. -/
  firstNumber : Nat := 4194303
  /-- The numbers of the shells around it. -/
  around : List Nat := []
  /-- The shells around it that it is a part of. -/
  level : Nat := 0
  /-- How many of them count. -/
  counted : Nat := 0
  /-- The status with which it ends in the extended family when a word leaves
      it no other choice. -/
  lost : Nat := 1
  /-- Whether it will count once the words of its command are expanded. -/
  counts : Bool := false
  /-- How many snippets are being read inside one another. -/
  nesting : Nat := 1
  /-- The number of the last command that it does not wait for. -/
  lastAside : Option Nat := none
  /-- The rights that new files do not get. -/
  mask : Nat := 18
  /-- The programs that it has found, with their paths and how often they were
      run. -/
  found : List (String × String × Nat) := []
  /-- Whether it looks for programs where they usually are. -/
  looksAsUsual : Bool := false
  /-- The commands that it knows and does not use. -/
  disabled : List String := []
  /-- The places that it goes back to. -/
  stack : List Location := []
  /-- The limits that it has set, by their letters. -/
  limits : List (Char × String) := []
  /-- What the last regular expression has matched. -/
  matched : List String := []
  /-- The letters it has been started with. -/
  letters : String := ""
  deriving Inhabited

/-- What shells inside one another share. -/
structure World where
  /-- The channels. -/
  channels : Array Channel := #[]
  /-- The files. -/
  files : FileTree := {}
  /-- How many more commands may be run. -/
  patience : Nat := 0
  /-- The signals that have been sent and not been received: the number of the
      shell, and the signal. -/
  signals : List (Nat × Nat) := []
  /-- The number of the next shell. -/
  nextNumber : Nat := 4194304
  /-- The commands that no shell waits for and that have not been run, each
      with its number and its shell. -/
  waiting : List (Nat × Command × Session) := []
  /-- How those have ended that have been run. -/
  ended : List (Nat × Exit) := []
  /-- How many functions and shells are inside one another. -/
  depth : Nat := 0

/-- The state in which commands are run. -/
structure State where
  /-- The shell. -/
  session : Session
  /-- What it shares. -/
  world : World

/-- Something that a shell does. -/
abbrev Act : Type → Type := EStateM Flow State

/-! ## The shell -/

/-- The shell. -/
def session : Act Session := do return (← get).session

/-- Change the shell. -/
def change (f : Session → Session) : Act Unit :=
  modify (fun s => { s with session := f s.session })

/-- What shells share. -/
def world : Act World := do return (← get).world

/-- Change what shells share. -/
def changeWorld (f : World → World) : Act Unit :=
  modify (fun s => { s with world := f s.world })

/-- The family of the shell. -/
def dialect : Act Dialect := do return (← session).dialect

/-- Whether the shell is of the extended family. -/
def isExtended : Act Bool := do return (← dialect) == .extended

/-- End a command with a status. -/
def setStatus (status : Nat) : Act Unit :=
  change (fun s => { s with status := status })

/-- Whether the shell has a habit. -/
def hasHabit (name : String) : Act Bool := do
  return (← session).habits.contains name

/-- Whether the shell has a further feature. -/
def hasFeature (name : String) : Act Bool := do
  return (← session).features.contains name

/-- Go one step further. -/
def step : Act Unit := do
  let w ← world
  if w.patience = 0 then throw .endless
  else set { (← get) with world := { w with patience := w.patience - 1 } }

/-- How many functions may be called inside one another in the plain
    family. -/
def deepestCall : Nat := 1000

/-- How many functions and shells may be inside one another. -/
def deepest : Nat := 4000

/-- Do something one level deeper. -/
def inside {α : Type} (tooDeep : Act α) (act : Act α) : Act α := do
  let depth := (← world).depth
  if deepest ≤ depth then tooDeep
  else
    changeWorld (fun w => { w with depth := depth + 1 })
    let back : Act Unit := changeWorld (fun w => { w with depth := depth })
    let v ← tryCatch act (fun flow => do back; throw flow)
    back
    return v

/-! ## Channels -/

/-- A new channel. -/
def newChannel (c : Channel) : Act Nat := do
  let n := (← world).channels.size
  changeWorld (fun w => { w with channels := w.channels.push c })
  return n

/-- The channel of a stream. -/
def channel? (stream : Nat) : Act (Option (Nat × Channel)) := do
  match (← session).streams.lookup stream with
  | none => return none
  | some n => return some (n, (← world).channels.getD n .void)

/-- Change a channel. -/
def setChannel (n : Nat) (c : Channel) : Act Unit :=
  changeWorld (fun w => { w with channels := w.channels.setIfInBounds n c })

/-- The octets of a file. -/
def fileContent (files : FileTree) (way : FileTree.Way) : List Char :=
  match files.entry? way with
  | some (.file text) => (Octets.ofText text).toList
  | some (.raw octets) => octets.map Char.ofNat
  | _ => []

/-- Files with other octets in one of them. -/
def setContent (files : FileTree) (way : FileTree.Way) (content : List Char) :
    FileTree :=
  files.put way (FileTree.entryOf (content.map Char.toNat))

/-- What could not be written. -/
inductive WriteFault where
  /-- The stream leads nowhere. -/
  | closed
  /-- There is no room. -/
  | full
  deriving DecidableEq, Repr

/-- Print to a channel. -/
def printTo (n : Nat) (c : Channel) (text : String) :
    Act (Option WriteFault) := do
  match c with
  | .sink printed =>
      setChannel n (.sink (text :: printed))
      return none
  | .void => return none
  | .source _ => return some .closed
  | .full => return if text.isEmpty then none else some .full
  | .file way place reads writes atEnd =>
      if !writes then return some .closed
      else
        let files := (← world).files
        let old := fileContent files way
        let place := if atEnd then old.length else place
        let cs := text.toList
        let gap := List.replicate (place - old.length) (Char.ofNat 0)
        let new :=
          old.take place ++ gap ++ cs ++ old.drop (place + cs.length)
        changeWorld (fun w => { w with files := setContent w.files way new })
        setChannel n (.file way (place + cs.length) reads writes atEnd)
        return none

/-- Print to a stream. -/
def printOn (stream : Nat) (text : String) : Act (Option WriteFault) := do
  match ← channel? stream with
  | none => return some .closed
  | some (n, c) => printTo n c text

/-- What can be read from a stream; nothing if the stream cannot be read. -/
def readable? (stream : Nat) : Act (Option (List Char)) := do
  match ← channel? stream with
  | some (_, .source rest) => return some rest
  | some (_, .void) => return some []
  | some (_, .file way place true _ _) =>
      return some ((fileContent (← world).files way).drop place)
  | _ => return none

/-- Go past characters of a stream; `rest` follow them. -/
def consume (stream : Nat) (count : Nat) (rest : List Char) : Act Unit := do
  match ← channel? stream with
  | some (n, .source _) => setChannel n (.source rest)
  | some (n, .file way place reads writes atEnd) =>
      setChannel n (.file way (place + count) reads writes atEnd)
  | _ => return ()

/-- Everything that can still be read from a stream. -/
def readAll (stream : Nat) : Act (Option String) := do
  match ← readable? stream with
  | none => return none
  | some cs =>
      consume stream cs.length []
      return some (String.ofList cs)

/-- Let a stream lead to a channel. -/
def lead (stream channel : Nat) : Act Unit :=
  change (fun s =>
    { s with
      streams :=
        (stream, channel) :: s.streams.filter (fun e => e.1 != stream) })

/-- Close a stream. -/
def closeStream (stream : Nat) : Act Unit :=
  change (fun s =>
    { s with streams := s.streams.filter (fun e => e.1 != stream) })

/-- What has been printed to a sink. -/
def printed (n : Nat) : Act String := do
  match (← world).channels.getD n .void with
  | .sink all => return String.join all.reverse
  | _ => return ""

/-! ## Complaints -/

/-- The name by which the shell speaks. -/
def Session.shownName (s : Session) : String :=
  match s.dialect, s.frames with
  | .plain, _ | _, [] => s.name
  | .extended, f :: _ => if f.source.isEmpty then s.name else f.source

/-- What stands before a complaint. -/
def Session.place (s : Session) : String :=
  let line := toString s.line
  match s.dialect with
  | .plain => s.name ++ ": " ++ line ++ ": "
  | .extended => s.shownName ++ ": line " ++ line ++ ": "

/-- Print a line to the error output. -/
def sayLine (line : String) : Act Unit := do
  let _ ← printOn 2 (line ++ "\n")

/-- Complain about a command that the shell knows. -/
def complain (text : String) : Act Unit := do
  sayLine ((← session).place ++ text)

/-- Complain about something else. -/
def protest (text : String) : Act Unit := do
  let s ← session
  let speaker :=
    if s.dialect = .plain && !s.speaker.isEmpty then s.speaker ++ ": " else ""
  sayLine (s.place ++ speaker ++ text)

/-- Give up because of a word or an assignment: the plain family with status 2,
    the extended family gives up the line, or the shell if it `ends`. -/
def giveUp {α : Type} (ends : Bool) : Act α := do
  let s ← session
  match s.dialect, ends with
  | .plain, _ =>
      setStatus 2
      throw .abandons
  | .extended, true =>
      throw (.ends (if s.habits.contains "errexit" then 1 else s.lost))
  | .extended, false =>
      setStatus 1
      throw .abandons

/-- Complain and give up. -/
def fault {α : Type} (text : String) : Act α := do
  protest text
  giveUp false

end NodeFlow.Shell
