import NodeFlow.Shell.Builtin.Signals
import NodeFlow.Shell.Snippet

/-! # Events

    A shell that has been told what to do in an event does it between two
    commands, and its status is the same afterwards.  It also does something
    at its end, if it has been told so.  How a command is run is a parameter
    here. -/

namespace NodeFlow.Shell

/-- Do something in a shell that is changed for that time; `back` makes it as
    it was from what it is afterwards. -/
def during {α : Type} (f : Session → Session)
    (back : Session → Session → Session) (act : Act α) : Act α := do
  let before ← session
  change f
  let after : Act Unit := change (back before)
  let v ← tryCatch act (fun flow => do
    after
    throw flow)
  after
  return v

namespace Event

variable (run : Command → Act Unit)

/-- Run commands one after the other; `last` tells whether nothing comes after
    them. -/
def commandsThen (last : Bool) : List Command → Act Unit
  | [] => return ()
  | [c] => do
      let s ← session
      unless s.dialect = .extended && s.habits.contains "noexec" do
        if last then change (fun s => { s with last := true })
        run c
  | c :: d :: rest => do
      let s ← session
      unless s.dialect = .extended && s.habits.contains "noexec" do
        run c
        commandsThen last (d :: rest)

/-- Whether nothing comes after the command; what it does is not the last any
    more. -/
def takeLast : Act Bool := do
  let last := (← session).last
  if last then change (fun s => { s with last := false })
  return last

/-- Run the commands of a line. -/
def commands (body : List Command) : Act Unit := do
  commandsThen run (← takeLast) body

/-- Run a text under a name, with so many lines above it; tells whether
    something has been run. -/
def text (source : String) (above : Nat) (echoes : Bool) (code : String) :
    Act Bool :=
  during
    (fun s =>
      { s with source := source, above := above, nesting := s.nesting + 1 })
    (fun before s =>
      { s with
        source := before.source, above := before.above
        ground := before.ground
        nesting := before.nesting })
    (Snippet.ofText (commands run) echoes code)

/-- Do what a shell has been told to do in an event. -/
def act (event action : String) : Act Unit := do
  let s ← session
  let above := if Signal.events.contains event then s.line - 1 else 0
  let _ ← during
    (fun s => { s with trapped := event :: s.trapped, speaker := "" })
    (fun before s =>
      { s with
        trapped := before.trapped, speaker := before.speaker
        line := before.line, wordStatus := before.wordStatus })
    (text run "trap" above true action)
  change (fun after =>
    { after with status := s.status, statuses := s.statuses })

/-- What a shell does in an event of the extended family. -/
def action? (s : Session) (event habit : String) : Option String :=
  let here := s.function?.isNone || s.habits.contains habit
  if here && !s.trapped.contains event then
    (s.trap? event).filter (fun a => !a.isEmpty)
  else none

/-- Do what the shell has been told to do before a command. -/
def before : Act Unit := do
  let s ← session
  unless s.traps.isEmpty do
    match action? s "DEBUG" "functrace" with
    | some action => act run "DEBUG" action
    | none => return ()

/-- Do what follows when a command has failed that should not. -/
def heed : Act Unit := do
  let s ← session
  unless s.status = 0 || s.asked do
    match action? s "ERR" "errtrace" with
    | some action => act run "ERR" action
    | none => pure ()
    if s.habits.contains "errexit" then throw (.ends s.status)

/-- Do what signals lead to that the shell has got. -/
def onSignals : List Nat → Act Unit
  | [] => return ()
  | n :: rest => do
      let s ← session
      match s.answer? n with
      | some "" => pure ()
      | some action => act run ((Signal.name? n).getD "") action
      | none => unless s.dialect = .extended && n = 2 do receive n
      onSignals rest

/-- Do what follows from the signals that the shell has got. -/
def deliver : Act Unit := do
  let w ← world
  unless w.signals.isEmpty do
    let s ← session
    let mine := w.signals.filter (fun e => e.1 == s.number)
    unless mine.isEmpty do
      changeWorld (fun w =>
        { w with signals := w.signals.filter (fun e => e.1 != s.number) })
      let numbers := (List.range (Signal.last + 1)).filter (fun n =>
        mine.any (fun e => e.2 == n))
      onSignals run numbers

/-- The end that follows when a shell stops what it does. -/
def exitOf (s : Session) : Flow → Option Exit
  | .ends n | .returns n => some (.status n)
  | .killed n => some (.killed n)
  | .endless => none
  | .leaves _ | .repeats _ => some (.status s.status)
  | .abandons => some (.status (if s.dialect = .plain then 2 else 1))

/-- Do something up to the end of a shell. -/
def upToEnd (act : Act Unit) : Act Exit :=
  tryCatch
    (do
      act
      return .status (← session).status)
    (fun flow => do
      match exitOf (← session) flow with
      | some exit => return exit
      | none => throw flow)

/-- Do something up to the end of a shell, and then what the shell has been
    told to do at its end; its status may still be of any size. -/
def toTheEnd (body : Act Unit) : Act Exit := do
  let exit ← upToEnd body
  let s ← session
  let inOrder :=
    match exit with
    | .status _ => true
    | .killed n => s.dialect = .extended && Signal.endsInOrder n
  match s.trap? "EXIT" with
  | none | some "" => return exit
  | some action =>
      if !inOrder then return exit
      else
        Builtin.putTrap none "EXIT"
        match exit with
        | .status n => setStatus n
        | .killed n => setStatus (128 + n)
        change (fun s =>
          { s with
            loops := 0, asked := false, last := false
            lost := s.status % 256 })
        let status := (← session).status
        let after ← upToEnd (do
          let _ ← text run "exit trap" 0 true action
          setStatus status)
        match exit with
        | .killed n => return .killed n
        | .status _ => return after

/-- Do something up to the end of a shell, and then what the shell has been
    told to do at its end.  One octet of its status is left. -/
def whole (body : Act Unit) : Act Exit := do
  match ← toTheEnd run body with
  | .status n => return .status (n % 256)
  | exit => return exit

end Event
end NodeFlow.Shell
