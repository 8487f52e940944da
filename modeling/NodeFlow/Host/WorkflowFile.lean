import NodeFlow.Host.Error
import NodeFlow.Json.Shape
import NodeFlow.Snapshot

/-! # Workflow files

    A workflow file holds a snapshot and the version of its format, in
    indented JSON.  A file without a version is of the newest one, and a file
    of a version that is not known yet is refused, once all of it has been
    understood. -/

namespace NodeFlow

namespace WorkflowFile

/-- What is wanted of a workflow file. -/
def shape : Json.Shape :=
  .record
    [("version", .any), ("graph", .any), ("nodes", .list (Record.shape true)),
      ("links", .dict .any (fun v => v.toWord.isOk)),
      ("code",
        .dict (SavedCode.shape true) (fun v => (SavedCode.ofJson v).isOk))]
    true

/-- Encode a snapshot with the version of the format. -/
def toJson (s : Snapshot) : Json :=
  .obj (s.members ++ [("version", .ofNat WorkflowFileError.newest)])

/-- The text of a workflow file. -/
def text (s : Snapshot) : String := (Json.arrange shape (toJson s)).indented

/-- Decode the version of the format and a snapshot. -/
def ofJson : Json → Decoded (Nat × Snapshot)
  | .obj members => do
      let fields := Fields.named (Json.tableOf members)
      let version ←
        fields.getD 0 "version" Json.toHalfWord WorkflowFileError.newest
      .ok (version, ← Snapshot.ofFields fields)
  | v => .error (.wrongKind v "a map")

/-- The version and the snapshot that a text holds; `none` when it holds
    none. -/
def ofText? (s : String) : Option (Nat × Snapshot) := do
  (ofJson (← Json.readAs shape s)).toOption

/-- The snapshot in the text of the file at a path. -/
def ofText (path s : String) : Except WorkflowFileError Snapshot :=
  match ofText? s with
  | none => .error (.invalid path)
  | some (version, snapshot) =>
      if WorkflowFileError.newest < version then .error (.version version)
      else .ok snapshot

/-! ## Reading and writing -/

/-- The file extension of workflow files. -/
def extension : String := "json"

/-- The outcome of access to a workflow file. -/
def attempt {α : Type} (path : String) (outcome : Except FileFault α) :
    Except WorkflowFileError α :=
  match outcome with
  | .ok a => .ok a
  | .error fault => .error (.io path fault)

/-- Read a workflow file. -/
def load {m : Type → Type} [Monad m] [Files m] (path : String) :
    m (Except WorkflowFileError Snapshot) := do
  pure ((attempt path (← Files.read path)) >>= ofText path)

/-- Make the directory that a path names something in. -/
def makeParent {m : Type → Type} [Monad m] [Files m] (path : String) :
    m (Except WorkflowFileError Unit) := do
  match FilePath.parent? path with
  | none | some "" => pure (.ok ())
  | some parent => pure (attempt parent (← Files.makeDirs parent))

/-- Write a workflow file, and the directories that it needs. -/
def save {m : Type → Type} [Monad m] [Files m] (path : String)
    (s : Snapshot) : m (Except WorkflowFileError Unit) := do
  match ← makeParent path with
  | .error e => pure (.error e)
  | .ok () => pure (attempt path (← Files.write path (text s)))

/-- The paths of the workflow files among the names in a directory. -/
def pathsIn (dir : String) (names : List String) : List String :=
  ((names.filter (fun n => FilePath.extension? n == some extension)).mergeSort
    (fun a b => decide (a ≤ b))).map (FilePath.join dir)

/-- The paths of the workflow files in a directory, in order. -/
def list {m : Type → Type} [Monad m] [Files m] (dir : String) :
    m (Except WorkflowFileError (List String)) := do
  pure ((attempt dir (← Files.list dir)).map (pathsIn dir))

end WorkflowFile
end NodeFlow
