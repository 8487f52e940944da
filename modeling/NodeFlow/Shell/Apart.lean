import NodeFlow.Shell.Event
import NodeFlow.Shell.Redirection

/-! # Shells within a shell

    Some commands run in shells of their own, which begin as copies of the
    shell around them: what they do to themselves is lost at their end, what
    they do to files and channels is not.  Of commands that are joined by
    channels, each is run to its end before the next one; one that prints
    without end goes on as long as the next one reads.

    A command that nothing waits for is run when something does wait, at the
    latest at the end of everything.  How a command is run is a parameter
    here. -/

namespace NodeFlow.Shell

namespace Exit

/-- The status of an end. -/
def code : Exit → Nat
  | .status n => n
  | .killed n => 128 + n

end Exit

namespace Apart

variable (run : Command → Act Unit)

/-- The number of another shell. -/
def freshNumber : Act Nat := do
  let n := (← world).nextNumber
  changeWorld (fun w => { w with nextNumber := n + 1 })
  return n

/-- A shell as it begins inside another one. -/
def inner (number : Nat) (s : Session) : Session :=
  let stays (e : String × String) : Bool :=
    e.2.isEmpty
      || (e.1 = "ERR" && s.habits.contains "errtrace")
      || ((e.1 = "DEBUG" || e.1 = "RETURN") && s.habits.contains "functrace")
  { s with
    number := number
    around := s.number :: s.around
    level := s.level + 1
    counted := s.counted + 1
    counts := false
    last := false
    traps := s.traps.filter stays
    formerTraps :=
      if s.dialect = .extended then
        s.formerTraps ++ s.traps.filter (fun e => !stays e)
      else [] }

/-- A shell that is in no loop, as far as the extended family goes. -/
def loopless (s : Session) : Session :=
  if s.dialect = .extended then { s with loops := 0 } else s

/-- Do something in a shell that is none of the shell's own, and be that shell
    again. -/
def elsewhere {α : Type} (f : Session → Session) (act : Act α) : Act α :=
  during f (fun before _ => before) act

/-- Do something in a shell of its own, changed in some way, up to its end. -/
def shell (number : Nat) (f : Session → Session) (body : Act Unit) :
    Act Exit :=
  elsewhere (fun s => f (inner number s))
    (inside (throw .endless) (Event.whole run body))

/-- A shell with other channels for its streams. -/
def withStreams (channels : List (Nat × Nat)) (s : Session) : Session :=
  { s with
    streams :=
      channels ++ s.streams.filter (fun e => (channels.lookup e.1).isNone) }

/-- Run a command that is all that its shell does. -/
def only (c : Command) : Act Unit := do
  let branches :=
    match c with
    | .both _ _ | .either _ _ => true
    | _ => false
  change (fun s =>
    { s with last := s.dialect = .plain || !branches })
  run c

/-- A shell that does nothing but run a command.  It counts later if that is a
    simple one, and not if that begins another shell. -/
def forOnly (c : Command) (s : Session) : Session :=
  match c with
  | .simple _ _ _ _ => { s with counted := s.counted - 1, counts := true }
  | .apart _ _ => { s with counted := s.counted - 1, lost := 1 }
  | _ => { s with lost := 1 }

/-- Say that a signal has ended what the shell has waited for. -/
def sayDeath (n : Nat) : Act Unit := do
  let s ← session
  unless s.dialect = .extended && s.inWord do
    match Signal.text? n with
    | some text => sayLine text
    | none => return ()

/-- Go on after what the shell has waited for. -/
def goOn (exit : Exit) : Act Unit := do
  match exit with
  | .killed n => sayDeath n
  | _ => pure ()
  setStatus exit.code

/-! ## Commands that nothing waits for -/

/-- Let a channel that has been printed to be read. -/
def turnRound (channel : Nat) : Act Unit := do
  match (← world).channels.getD channel .void with
  | .sink _ => setChannel channel (.source (← printed channel).toList)
  | _ => return ()

/-- Run a command that nothing has waited for. -/
def catchUp (number : Nat) (c : Command) (s : Session) : Act Unit := do
  match s.streams.lookup 0 with
  | some n => turnRound n
  | none => pure ()
  let exit ← elsewhere (fun _ => s)
    (inside (throw .endless) (Event.whole run (only run c)))
  changeWorld (fun w => { w with ended := (number, exit) :: w.ended })

/-- Run some of the commands that nothing has waited for, the first one
    first. -/
def catchUpAll (wanted : Nat × Command × Session → Bool) : Nat → Act Unit
  | 0 => throw .endless
  | fuel + 1 => do
      let w ← world
      match w.waiting.find? wanted with
      | none => return ()
      | some (number, c, s) =>
          changeWorld (fun w =>
            { w with waiting := w.waiting.filter (fun e => e.1 != number) })
          catchUp run number c s
          catchUpAll wanted fuel

/-- Run some of the commands that nothing has waited for. -/
def catchUpOn (wanted : Nat × Command × Session → Bool) : Act Unit := do
  let w ← world
  unless w.waiting.isEmpty do catchUpAll run wanted (w.patience + 1)

/-- A shell to which the signals of a keyboard do nothing.  In the extended
    family they may do something to what it runs, unless it does nothing but
    run programs. -/
def undisturbed (c : Command) (s : Session) : Session :=
  let keyboard := ["INT", "QUIT"]
  match s.dialect, c with
  | .plain, _ | _, .simple _ _ _ _ | _, .pipeline _ _ =>
      { s with deaf := keyboard ++ s.deaf }
  | .extended, _ =>
      let keeps (e : String × String) : Bool := !keyboard.contains e.1
      { s with
        calm := keyboard
        formerTraps := s.formerTraps.filter (fun e => e.1 != "INT")
        traps := s.traps.filter (fun e => keeps e || e.2.isEmpty) }

/-- Begin a command that nothing waits for. -/
def aside (c : Command) : Act Unit := do
  let number ← freshNumber
  let input ← newChannel .void
  let s := undisturbed c (loopless (inner number (← session)))
  let s :=
    match c with
    | .simple _ _ _ _ => s
    | c => forOnly c s
  let s := withStreams [(0, input)] { s with asked := false }
  let c :=
    match s.dialect, c with
    | .extended, .pipeline true all => .pipeline false all
    | _, c => c
  changeWorld (fun w => { w with waiting := w.waiting ++ [(number, c, s)] })
  change (fun s => { s with lastAside := some number })
  setStatus 0

/-! ## Output as text -/

/-- What is printed in a shell of its own, and how it ends. -/
def captured (f : Session → Session) (body : Act Unit) :
    Act (String × Exit) := do
  let channel ← newChannel (.sink [])
  let exit ← shell run (← freshNumber)
    (fun s => withStreams [(1, channel)] (f s)) body
  catchUpOn run (fun (_, _, s) => s.streams.any (fun e => e.2 == channel))
  let text ← printed channel
  setChannel channel .void
  return (text, exit)

/-- A shell that runs the commands in a word. -/
def forWord (s : Session) : Session :=
  let keeps := s.dialect = .plain || s.features.contains "inherit_errexit"
  { s with
    inWord := true
    lost := 1
    asked := false
    nesting := s.nesting + 1
    habits := if keeps then s.habits else s.habits.filter (· != "errexit") }

/-- What commands in a word print. -/
def outputOf (f : Session → Session) (body : Act Unit) : Act String := do
  let (text, exit) ← captured run (fun s => f (forWord s)) body
  let d ← dialect
  match exit, d with
  | .killed n, .plain => sayDeath n
  | .killed 2, .extended => receive 2
  | _, _ => pure ()
  let s ← session
  if d = .extended && (← world).signals.contains (s.number, 2)
      && (s.answer? 2).isNone then
    throw (.killed 2)
  change (fun s =>
    { s with
      wordStatus := some exit.code
      status := if d = .extended then exit.code else s.status })
  if d = .extended && text.toList.any (fun c => c.toNat = 0) then
    protest
      "warning: command substitution: ignored null byte in input"
  return text

/-- The file that commands do nothing but read, in the extended family. -/
def onlyRead? (d : Dialect) : List Command → Option Word
  | [.simple _ [] [] [.mk none none (.read w)]] =>
      if d = .extended then some w else none
  | _ => none

/-- The number for a stream that a path leads to. -/
def pathStream (s : Session) : Nat :=
  ((List.range 64).reverse.find? (fun n =>
    (s.streams.lookup n).isNone)).getD 63

/-- The path of a file with the output of commands, or of one that gives them
    their input. -/
def channelPath (gives : Bool) (body : List Command) : Act String := do
  let s ← session
  let n := pathStream s
  let commands : Command := .group body
  let channel ←
    if gives then do
      let channel ← newChannel (.sink [])
      let number ← freshNumber
      let s := withStreams [(0, channel)] (inner number s)
      changeWorld (fun w =>
        { w with waiting := w.waiting ++ [(number, commands, s)] })
      pure channel
    else do
      let (text, _) ← captured run forWord (run commands)
      newChannel (.source text.toList)
  lead n channel
  return "/dev/fd/" ++ toString n

/-! ## Words -/

/-- A shell as it begins with the commands in a word. -/
def onLine (line : Nat) (s : Session) : Session :=
  if s.dialect = .extended then { s with above := line - 1, ground := line }
  else s

/-- How the words of a command are expanded, as long as the commands in them
    do not only read a file. -/
def commonRunner : Runner where
  output body := do
    let s ← session
    let last := s.dialect = .extended
      && body.getLast?.any Snippet.isReplaceable
    outputOf run (onLine s.line) (Event.commandsThen run last body)
  unread code := do
    let s ← session
    outputOf run (fun t => { t with nesting := s.nesting }) (do
      let ran ← Event.text run "command substitution" (s.line - 1) true code
      unless ran do setStatus 0)
  channel := channelPath run
  prompt := return ""

/-- Print what the file holds that a word names. -/
def printFile (w : Word) : Act Unit := do
  match ← (Redirection.openWord (commonRunner run) w .read).run with
  | some n =>
      lead 0 n
      let _ ← printOn 1 ((← readAll 0).getD "")
      setStatus 0
  | none => setStatus 1

/-- How the words of a command are expanded. -/
def plainRunner : Runner :=
  let r := commonRunner run
  { r with
    output := fun body => do
      match onlyRead? (← dialect) body with
      | some w => outputOf run id (printFile run w)
      | none => r.output body }

/-- What stands before a command that is traced. -/
def prompt : Act String := do
  let s ← session
  let text := (s.text? "PS4").getD ""
  let cursor : Cursor := { rest := text.toList, rules := s.rules }
  let read : Reader (List Part) := do
    Words.textParts (Reader.commandsInside (← Reader.supply)) text 1
  let shown ←
    match read.run cursor with
    | .ok parts _ =>
        during
          (fun s => { s with habits := s.habits.filter (· != "xtrace") })
          (fun before s =>
            { s with
              habits := before.habits, status := before.status
              wordStatus := before.wordStatus })
          (do
            let atoms ←
              Expand.parts (plainRunner run) Expand.deepestPart .quoted parts
            return Atom.joined atoms)
    | .error _ _ => pure text
  match s.dialect, shown.toList with
  | .extended, c :: rest =>
      return String.ofList (List.replicate s.nesting c ++ rest)
  | _, _ => return shown

/-- How the words of a command are expanded, and how it is traced. -/
def runner : Runner := { plainRunner run with prompt := prompt run }

/-! ## Commands joined by channels -/

/-- Do something that may take only a part of the patience that is left;
    nothing, if that is not enough. -/
def withShare (act : Act Exit) : Act (Option Exit) := do
  let all := (← world).patience
  let share := all / 4
  changeWorld (fun w => { w with patience := share })
  let back : Act Unit := changeWorld (fun w =>
    { w with patience := all - (share - w.patience) })
  tryCatch
    (do
      let exit ← act
      back
      return some exit)
    (fun flow => do
      back
      match flow with
      | .endless => return none
      | flow => throw flow)

/-- Run a command that prints to the next one; answers the channel from which
    that one reads. -/
def feed (input : Option Nat) (c : Command) : Act (Nat × Option Exit) := do
  let channel ← newChannel (.sink [])
  let streams :=
    match input with
    | some n => [(0, n), (1, channel)]
    | none => [(1, channel)]
  let number ← freshNumber
  let exit ← withShare (shell run number
    (fun s => withStreams streams (forOnly c s)) (only run c))
  catchUpOn run (fun (_, _, s) => s.streams.any (fun e => e.2 == channel))
  turnRound channel
  return (channel, exit)

/-- How a command has ended that another one has read from: if it has not, the
    other one must have stopped to read. -/
def settle (channel : Nat) : Option Exit → Act Exit
  | some exit => return exit
  | none => do
      match (← world).channels.getD channel .void with
      | .source (_ :: _) => return .killed 13
      | _ => throw .endless

/-- Run commands of which each reads what the one before prints; answers how
    they have ended. -/
def chain (input : Option Nat) : List Command → Act (List Exit)
  | [] => return []
  | [c] => do
      let s ← session
      let streams := (input.map (fun n => (0, n))).toList
      if s.features.contains "lastpipe" then
        let before := s.streams
        change (withStreams streams)
        run c
        change (fun s => { s with streams := before })
        return [.status (← session).status]
      else
        let number ← freshNumber
        return [← shell run number
          (fun s => withStreams streams (forOnly c s)) (only run c)]
  | c :: d :: rest => do
      match c with
      | .simple _ _ _ _ => Event.before run
      | _ => pure ()
      let (channel, exit) ← feed run input c
      let others ← chain (some channel) (d :: rest)
      return (← settle channel exit) :: others

/-- Run commands joined by channels. -/
def pipeline (members : List Command) : Act Unit := do
  let last ← Event.takeLast
  let exits ← chain run none members
  let d ← dialect
  match exits.getLast? with
  | some (.killed n) =>
      if last && d = .extended then throw (.killed n)
  | _ => pure ()
  let heard := if d = .plain then exits else exits.drop (exits.length - 1)
  for exit in heard do
    match exit with
    | .killed n => sayDeath n
    | _ => pure ()
  let codes := exits.map Exit.code
  let last := codes.getLastD 0
  let status :=
    if ← hasHabit "pipefail" then
      (codes.reverse.find? (fun n => n != 0)).getD 0
    else last
  change (fun s => { s with status := status, statuses := codes })

/-- Run commands between parentheses. -/
def parentheses (line : Nat) (body : List Command) : Act Unit := do
  let last ← Event.takeLast
  let number ← freshNumber
  let begins (s : Session) : Session :=
    { loopless s with ground := line + s.above, lost := 1 }
  let exit ← shell run number begins (Event.commandsThen run last body)
  match exit with
  | .killed n => if last then throw (.killed n)
  | .status _ => pure ()
  goOn exit
  change (fun s => { s with statuses := [s.status] })

end Apart
end NodeFlow.Shell
