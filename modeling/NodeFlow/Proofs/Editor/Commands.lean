import NodeFlow.Editor.Desk

/-! # What an editor can do to a workbench

    An editor is given one command after the other, and the changes of its
    surface reach it one by one.  Whatever it is given, it saves one side of
    one node or leaves the workbench alone. -/

namespace NodeFlow

/-- What an editor is asked to do, or told. -/
inductive Command where
  /-- Select a node, or none. -/
  | select (id : Option String)
  /-- Show another side of the node. -/
  | switchMode (mode : Mode)
  /-- Show the node again. -/
  | render
  /-- Save the edit now. -/
  | flush
  /-- Save the edit if the timer is due. -/
  | poll (now : Nat)
  /-- The oldest change of the surface that has not been heard of. -/
  | hear (now : Nat)
  deriving DecidableEq, Repr

namespace Desk

/-- One change of the surface fewer is unheard of. -/
def takeHeard (e : Editor) : Editor :=
  { e with surface := { e.surface with heard := e.surface.heard - 1 } }

/-- Carry out a command.  There may be no change to hear of. -/
def perform (d : Desk) : Command → Desk
  | .select id => d.select id
  | .switchMode mode => d.switchMode mode
  | .render => d.render
  | .flush => d.flush.2
  | .poll now => (d.poll now).2
  | .hear now =>
      if d.editor.surface.heard = 0 then d
      else (d.edit takeHeard).contentChanged now

/-! ## What is saved -/

/-- The workbench after one side of one node has been saved, or nothing. -/
inductive Saved (b : Workbench) : Workbench → Prop where
  /-- Nothing. -/
  | nothing : Saved b b
  /-- Title and ports, as they were read from a text. -/
  | outline {id text : String} {s : Structure}
      (h : Structure.parse text = .ok s) :
      Saved b (b.applyStructure id s.title s.inputs s.outputs).2
  /-- The code. -/
  | code (id text language : String) (now : Timestamp) :
      Saved b (b.setCode id text language now).2
  /-- The description. -/
  | description (id text : String) : Saved b (b.setDescription id text).2

theorem store_saved (d : Desk) (id text : String) :
    Saved d.bench (d.store id text).2.bench := by
  unfold store
  cases d.liveRecord? id with
  | none => exact .nothing
  | some r =>
      cases d.editor.mode with
      | outline =>
          cases hs : Structure.parse text with
          | ok s => exact .outline hs
          | error e => exact .nothing
      | code => exact .code _ _ _ _
      | description => exact .description _ _

@[simp] theorem report_bench (d : Desk) (reason : SyncError) :
    (d.report reason).bench = d.bench := by
  cases reason <;> rfl

theorem attempt_saved (d : Desk) (id : String) :
    Saved d.bench (d.attempt id).2.bench := by
  unfold attempt
  have hstore := d.store_saved id d.editor.surface.text
  simp only
  split
  · exact .nothing
  · split
    · rename_i heq
      rw [heq] at hstore
      exact hstore
    · rename_i heq
      rw [heq] at hstore
      simpa [edit] using hstore

theorem commit_saved (d : Desk) : Saved d.bench d.commit.2.bench := by
  unfold commit
  split
  · exact .nothing
  · rename_i id _
    split
    · exact .nothing
    · exact attempt_saved (d.edit (fun e => { e with dirty := false })) id

theorem flush_saved (d : Desk) : Saved d.bench d.flush.2.bench := by
  unfold flush
  simp only
  split
  · exact commit_saved (d.edit (fun e => { e with timer := e.timer.cancel }))
  · exact .nothing

@[simp] theorem render_bench (d : Desk) : d.render.bench = d.bench := by
  unfold render
  split <;> rfl

theorem select_saved (d : Desk) (id : Option String) :
    Saved d.bench (d.select id).bench := by
  have hflush := d.flush_saved
  unfold select
  split
  · exact .nothing
  · simp only
    split
    · simpa [edit] using hflush
    · simpa [edit, clearSurface] using hflush

theorem switchMode_saved (d : Desk) (mode : Mode) :
    Saved d.bench (d.switchMode mode).bench := by
  unfold switchMode
  split
  · exact .nothing
  · rw [render_bench]
    exact d.flush_saved

theorem poll_saved (d : Desk) (now : Nat) :
    Saved d.bench (d.poll now).2.bench := by
  unfold poll
  split
  · exact commit_saved (d.edit (fun e => { e with timer := e.timer.cancel }))
  · exact .nothing

/-- A command saves one side of one node, or nothing. -/
theorem perform_saved (d : Desk) (c : Command) :
    Saved d.bench (d.perform c).bench := by
  cases c with
  | select id => exact d.select_saved id
  | switchMode mode => exact d.switchMode_saved mode
  | render =>
      show Saved d.bench d.render.bench
      rw [render_bench]
      exact .nothing
  | flush => exact d.flush_saved
  | poll now => exact d.poll_saved now
  | hear now =>
      simp only [perform]
      split <;> exact .nothing

end Desk

end NodeFlow
