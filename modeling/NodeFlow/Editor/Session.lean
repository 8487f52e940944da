import NodeFlow.Config
import NodeFlow.Editor.Debounce
import NodeFlow.Editor.Mode
import NodeFlow.Editor.Structure
import NodeFlow.Editor.Surface

/-! # The state of an editor

    An editor shows one side of the selected node on a surface and remembers
    whether the text there is its own or the user's. -/

namespace NodeFlow

/-- Why an edit was not saved. -/
inductive SyncError where
  /-- The text is no structure text. -/
  | unreadable (reason : StructureError)
  /-- The node does not exist any more. -/
  | unknownNode (id : String)
  deriving DecidableEq, Repr

/-- The wording of an error. -/
def SyncError.message : SyncError → String
  | .unreadable reason => "Structure not saved: " ++ reason.message
  | .unknownNode id => "Unknown node: " ++ id

/-- What an attempt to save came to. -/
inductive CommitOutcome where
  /-- There was nothing to save. -/
  | nothing
  /-- The text was blank. -/
  | blank
  /-- The edit was saved. -/
  | committed
  /-- The edit was refused. -/
  | rejected (reason : SyncError)
  deriving DecidableEq, Repr

/-- Where an editor is between showing, editing and saving. -/
inductive EditorState where
  /-- Nothing is going on. -/
  | idle
  /-- A node is being shown. -/
  | rendering
  /-- The user is editing. -/
  | editing
  /-- An edit is being saved. -/
  | committing
  deriving DecidableEq, Repr, Inhabited

/-- The name of a state. -/
def EditorState.name : EditorState → String
  | .idle => "Idle"
  | .rendering => "Rendering"
  | .editing => "AwaitingUserEdit"
  | .committing => "Committing"

/-- What an editor has done so far. -/
structure EditorCounts where
  /-- Texts put on the surface. -/
  renders : Nat := 0
  /-- Edits saved. -/
  commits : Nat := 0
  /-- Edits refused. -/
  rejections : Nat := 0
  /-- Changes recognised as its own. -/
  echoes : Nat := 0
  deriving DecidableEq, Repr, Inhabited

/-- An editor. -/
structure Editor where
  /-- The surface. -/
  surface : Surface := {}
  /-- The identifier of the selected node. -/
  selection : Option String := none
  /-- The side of the node that is shown. -/
  mode : Mode := .outline
  /-- The editor has changed the surface and not heard of it yet. -/
  rendering : Bool := false
  /-- The selection is changing. -/
  switching : Bool := false
  /-- The surface holds an edit that is not saved. -/
  dirty : Bool := false
  /-- Where the editor is. -/
  state : EditorState := .idle
  /-- The timer that saves an edit. -/
  timer : Debounce
  /-- What has been done so far. -/
  counts : EditorCounts := {}
  deriving DecidableEq, Repr, Inhabited

/-- A new editor with a surface that is listened to. -/
def Editor.ofConfig (c : EditorConfig) : Editor :=
  { surface := ({} : Surface).listen 1
    timer := { delay := c.debounce } }

end NodeFlow
