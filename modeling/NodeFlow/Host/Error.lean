import NodeFlow.Backend.Kind
import NodeFlow.Editor.Session
import NodeFlow.Files.Basic
import NodeFlow.ModelError

/-! # Errors of a host

    Whatever can keep a host from doing what it was told. -/

namespace NodeFlow

/-- Why a workflow file could not be read or written. -/
inductive WorkflowFileError where
  /-- The file could not be got at. -/
  | io (path : String) (fault : FileFault)
  /-- The file holds no workflow. -/
  | invalid (path : String)
  /-- The file is of a version that is not known yet. -/
  | version (found : Nat)
  deriving DecidableEq, Repr

namespace WorkflowFileError

/-- The newest version of workflow files. -/
def newest : Nat := 1

/-- The wording of an error. -/
def message : WorkflowFileError → String
  | .io path fault =>
      "IO error on " ++ FilePath.quoted path ++ ": " ++ fault.message
  | .invalid path => "Invalid workflow file " ++ FilePath.quoted path
  | .version found =>
      "Unsupported workflow version " ++ toString found
        ++ " (newest known is " ++ toString newest ++ ")"

end WorkflowFileError

/-- Why the settings could not be read or written. -/
inductive ConfigFileError where
  /-- The file could not be got at. -/
  | io (fault : FileFault)
  /-- The file holds no settings. -/
  | invalid
  deriving DecidableEq, Repr

/-- The wording of an error. -/
def ConfigFileError.message : ConfigFileError → String
  | .io fault => "IO error: " ++ fault.message
  | .invalid => "Failed to parse config"

/-- Why a host could not do what it was told. -/
inductive HostError where
  /-- A workflow file failed. -/
  | file (e : WorkflowFileError)
  /-- The model refused. -/
  | model (e : ModelError)
  /-- Code could not be run. -/
  | execution (e : Failure)
  /-- An edit was refused. -/
  | edit (e : SyncError)
  /-- There is no template for a type. -/
  | unknownNodeType (nodeType : String)
  /-- There is no node with an identifier. -/
  | unknownNode (id : String)
  /-- An argument is not what it should be. -/
  | invalidArgument (arg reason : String)
  /-- The file that an argument names could not be read. -/
  | cannotRead (path : String) (fault : FileFault)
  deriving DecidableEq, Repr

/-- The wording of an error. -/
def HostError.message : HostError → String
  | .file e => e.message
  | .model e => e.message
  | .execution e => e.message
  | .edit e => e.message
  | .unknownNodeType nodeType => "Unknown node type: " ++ nodeType
  | .unknownNode id => "Unknown node: " ++ id
  | .invalidArgument arg reason =>
      "Invalid argument '" ++ arg ++ "': " ++ reason
  | .cannotRead path fault => "Cannot read " ++ path ++ ": " ++ fault.message

end NodeFlow
