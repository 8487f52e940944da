import NodeFlow.Editor.Session
import NodeFlow.Editor.View
import NodeFlow.Workbench

/-! # Editing nodes

    An editor works on a workbench.  Two rules keep what is shown and what is
    stored from chasing each other.  Showing a node never changes the
    workbench, and the change of the surface that showing makes is taken as
    its echo when it is heard of.  Leaving a node or a side of it saves the
    edit there before anything else is shown. -/

namespace NodeFlow

/-- An editor and the workbench that it works on. -/
structure Desk where
  /-- The workbench. -/
  bench : Workbench
  /-- The editor. -/
  editor : Editor
  /-- The time that saved code is stamped with. -/
  clock : Timestamp
  /-- Messages to the user, first things first. -/
  notes : List String := []
  deriving DecidableEq, Repr

namespace Desk

/-- Change the editor. -/
def edit (d : Desk) (f : Editor → Editor) : Desk :=
  { d with editor := f d.editor }

/-- The record with an identifier, unless it is removed. -/
def liveRecord? (d : Desk) (id : String) : Option Record :=
  (d.bench.registry.record? id).filter (fun r => !r.removed)

/-! ## Showing -/

/-- Put a text on the surface, unless it is there. -/
def putText (e : Editor) (text : String) : Editor :=
  if e.surface.text = text then e
  else
    { e with
      rendering := true
      surface := e.surface.setText text
      counts := { e.counts with renders := e.counts.renders + 1 } }

/-- Put a text in a language on the surface. -/
def put (e : Editor) (text language : String) : Editor :=
  let e := putText e text
  { e with surface := e.surface.setLanguage language }

/-- Show the selected node. -/
def render (d : Desk) : Desk :=
  match d.editor.selection.bind d.liveRecord? with
  | none => d
  | some r =>
      d.edit (fun e =>
        { put e (r.viewText e.mode) (r.viewLanguage e.mode) with
          state := .idle })

/-- Empty the surface. -/
def clearSurface (d : Desk) : Desk := d.edit (fun e => put e "" "plaintext")

/-! ## Saving -/

/-- Store a text as a side of a node. -/
def store (d : Desk) (id text : String) :
    Except SyncError Unit × Desk :=
  let done (result : Bool × Workbench) : Except SyncError Unit × Desk :=
    (if result.1 then .ok () else .error (.unknownNode id),
      { d with bench := result.2 })
  match d.liveRecord? id with
  | none => (.error (.unknownNode id), d)
  | some r =>
      match d.editor.mode with
      | .outline =>
          match Structure.parse text with
          | .ok s => done (d.bench.applyStructure id s.title s.inputs s.outputs)
          | .error e => (.error (.unreadable e), d)
      | .code => done (d.bench.setCode id text r.codeLanguage d.clock)
      | .description => done (d.bench.setDescription id text)

/-- Tell the user why an edit was refused, if the user can mend it. -/
def report (d : Desk) : SyncError → Desk
  | .unreadable e =>
      { d with notes := d.notes ++ [(SyncError.unreadable e).message] }
  | .unknownNode _ => d

/-- Save what is on the surface to a node. -/
def attempt (d : Desk) (id : String) : CommitOutcome × Desk :=
  let text := d.editor.surface.text
  if Text.allBlank text then (.blank, d)
  else
    match d.store id text with
    | (.ok (), d) =>
        (.committed,
          d.edit (fun e =>
            { e with
              counts := { e.counts with commits := e.counts.commits + 1 } }))
    | (.error reason, d) =>
        (.rejected reason,
          (d.report reason).edit (fun e =>
            { e with
              counts :=
                { e.counts with rejections := e.counts.rejections + 1 } }))

/-- Save the edit on the surface to the selected node.  While the surface
    shows a text of the editor that it has not heard of, and while the
    selection changes, there is nothing to save. -/
def commit (d : Desk) : CommitOutcome × Desk :=
  match d.editor.selection with
  | none => (.nothing, d)
  | some id =>
      if d.editor.rendering || d.editor.switching then (.nothing, d)
      else
        let (outcome, d) :=
          (d.edit (fun e => { e with dirty := false })).attempt id
        (outcome, d.edit (fun e => { e with state := .idle }))

/-- Save the edit now, if there is one. -/
def flush (d : Desk) : CommitOutcome × Desk :=
  let d := d.edit (fun e => { e with timer := e.timer.cancel })
  if d.editor.dirty then d.commit else (.nothing, d)

/-- Save the edit if the timer is due. -/
def poll (d : Desk) (now : Nat) : CommitOutcome × Desk :=
  if d.editor.timer.isDue now then
    (d.edit (fun e => { e with timer := e.timer.cancel })).commit
  else (.nothing, d)

/-! ## What the editor is told -/

/-- Select another node, or none.  A node that does not exist counts as
    none. -/
def select (d : Desk) (id : Option String) : Desk :=
  if id = d.editor.selection then d
  else
    let d := d.flush.2
    let target := id.filter (fun i => (d.liveRecord? i).isSome)
    let d :=
      d.edit (fun e =>
        { e with
          switching := true
          timer := e.timer.cancel
          selection := target
          rendering := false
          dirty := false })
    let d := if target.isSome then d.render else d.clearSurface
    d.edit (fun e => { e with switching := false, state := .idle })

/-- Show another side of the node. -/
def switchMode (d : Desk) (mode : Mode) : Desk :=
  if mode = d.editor.mode then d
  else (d.flush.2.edit (fun e => { e with mode := mode })).render

/-- The surface has changed, by the user or by the editor itself. -/
def contentChanged (d : Desk) (now : Nat) : Desk :=
  d.edit (fun e =>
    if e.selection.isNone then { e with rendering := false }
    else if e.rendering then
      { e with
        rendering := false
        counts := { e.counts with echoes := e.counts.echoes + 1 } }
    else
      { e with
        dirty := true
        state := .editing
        timer := e.timer.arm now })

/-! ## What happens to the surface -/

/-- The user edits the text. -/
def userEdit (d : Desk) (text : String) : Desk :=
  d.edit (fun e => { e with surface := e.surface.edit text })

/-- The host replaces the text. -/
def hostWrite (d : Desk) (text : String) : Desk :=
  d.edit (fun e => { e with surface := e.surface.setText text })

/-- Tell the editor of `count` changes of the surface. -/
def changedTimes (d : Desk) (now : Nat) : Nat → Desk
  | 0 => d
  | count + 1 => (d.contentChanged now).changedTimes now count

/-- Tell the editor of every change that it has not been told of; answers
    how many there were. -/
def deliver (d : Desk) (now : Nat) : Nat × Desk :=
  let count := d.editor.surface.heard
  let d := d.edit (fun e => { e with surface := e.surface.clearHeard })
  (count, d.changedTimes now count)

/-- The user edits the text and the editor is told at once. -/
def userType (d : Desk) (text : String) (now : Nat) : Desk :=
  let heard := d.editor.surface.heard
  ((d.userEdit text).edit (fun e =>
    { e with surface := { e.surface with heard := heard } })).contentChanged
      now

end Desk
end NodeFlow
