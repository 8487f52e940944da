import NodeFlow.Config
import NodeFlow.Host.Error

/-! # The settings in a file

    The settings are kept in one file of a directory.  Where there is no such
    file, the defaults count. -/

namespace NodeFlow

namespace ConfigFile

/-- The name of the file. -/
def name : String := "config.json"

/-- The path of the file in a directory. -/
def pathIn (dir : String) : String := FilePath.join dir name

/-- The settings in the text of a file. -/
def ofText (s : String) : Except ConfigFileError AppConfig :=
  match AppConfig.ofText? s with
  | some c => .ok c
  | none => .error .invalid

/-- Read the settings. -/
def load {m : Type → Type} [Monad m] [Files m] (dir : String) :
    m (Except ConfigFileError AppConfig) := do
  match ← Files.exists? (pathIn dir) with
  | .error fault => pure (.error (.io fault))
  | .ok false => pure (.ok {})
  | .ok true =>
      match ← Files.read (pathIn dir) with
      | .error fault => pure (.error (.io fault))
      | .ok text => pure (ofText text)

/-- Write the settings, and the directories that they need. -/
def save {m : Type → Type} [Monad m] [Files m] (dir : String)
    (c : AppConfig) : m (Except ConfigFileError Unit) := do
  match ← Files.makeDirs dir with
  | .error fault => pure (.error (.io fault))
  | .ok () =>
      match ← Files.write (pathIn dir) c.toJson.indented with
      | .error fault => pure (.error (.io fault))
      | .ok () => pure (.ok ())

end ConfigFile
end NodeFlow
