import NodeFlow.Editor.Desk

/-! # The editor in the background

    A loop takes commands one after the other and saves an edit when its
    timer is due.  Every change of the surface is a command as well.  The
    loop stops at a command to do so, after saving the edit on the surface.

    Time moves only by `sleep`, and the loop is done with everything in its
    queue before time moves on. -/

namespace NodeFlow

/-- What the loop is told. -/
inductive EditorCommand where
  /-- Select a node, or none. -/
  | select (id : Option String)
  /-- The surface has changed. -/
  | contentChanged
  /-- Show another side of the node. -/
  | switchMode (mode : Mode)
  /-- Save the edit now. -/
  | flush
  /-- Stop. -/
  | shutdown
  deriving DecidableEq, Repr

/-- An editor that takes commands from a queue. -/
structure EditorLoop where
  /-- The editor at work. -/
  desk : Desk
  /-- The commands, next first. -/
  queue : List EditorCommand := []
  /-- Milliseconds since the start. -/
  now : Nat := 0
  /-- Whether the loop has stopped. -/
  stopped : Bool := false
  deriving DecidableEq, Repr

namespace EditorLoop

/-- Send a command; tells whether anybody listens. -/
def send (l : EditorLoop) (c : EditorCommand) : Bool × EditorLoop :=
  if l.stopped then (false, l)
  else (true, { l with queue := l.queue ++ [c] })

/-- Turn the changes of the surface into commands. -/
def forward (l : EditorLoop) : EditorLoop :=
  let count := l.desk.editor.surface.heard
  let desk := l.desk.edit (fun e => { e with surface := e.surface.clearHeard })
  if l.stopped then { l with desk := desk }
  else
    { l with
      desk := desk
      queue := l.queue ++ List.replicate count .contentChanged }

/-- Change the desk and forward what that does to the surface. -/
def withDesk (l : EditorLoop) (f : Desk → Desk) : EditorLoop :=
  ({ l with desk := f l.desk } : EditorLoop).forward

/-- Carry out a command. -/
def apply (l : EditorLoop) : EditorCommand → EditorLoop
  | .select id => l.withDesk (fun d => d.select id)
  | .contentChanged => l.withDesk (fun d => d.contentChanged l.now)
  | .switchMode mode => l.withDesk (fun d => d.switchMode mode)
  | .flush => l.withDesk (fun d => d.flush.2)
  | .shutdown =>
      { l.withDesk (fun d => d.flush.2) with stopped := true, queue := [] }

/-- Carry out up to `fuel` commands. -/
def work : Nat → EditorLoop → EditorLoop
  | 0, l => l
  | fuel + 1, l =>
      match l.queue with
      | [] => l
      | c :: rest => work fuel (({ l with queue := rest } : EditorLoop).apply c)

/-- Save the edit if its timer is due. -/
def tick (l : EditorLoop) : EditorLoop :=
  if l.stopped then l else l.withDesk (fun d => (d.poll l.now).2)

/-- Be done with everything in the queue.  A command changes the surface at
    most once, and the news of a change do not change it. -/
def settle (l : EditorLoop) : EditorLoop :=
  (work (2 * l.queue.length) l).tick

/-- Let time pass.  A timer that becomes due meanwhile goes off when it
    does. -/
def sleep (l : EditorLoop) (span : Nat) : EditorLoop :=
  let wake := l.now + span
  let l :=
    match l.desk.editor.timer.deadline with
    | some deadline =>
        if deadline ≤ wake then
          ({ l with now := max l.now deadline } : EditorLoop).tick
        else l
    | none => l
  ({ l with now := wake } : EditorLoop).settle

end EditorLoop
end NodeFlow
