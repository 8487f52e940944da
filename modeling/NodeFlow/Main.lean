import NodeFlow.CommandLine.Run

/-! # The program

    The outer layer: files on disk, the clock, and the command line that the
    program was started with.  Programs that a workflow starts run inside and
    see none of the files. -/

namespace NodeFlow.Disk

/-- A fault by its number, or in words. -/
def faultOf (number : UInt32) (words : String) : FileFault :=
  match number.toNat with
  | 2 => .notFound
  | 17 => .alreadyExists
  | 20 => .notDirectory
  | 21 => .isDirectory
  | n => .other (words ++ " (os error " ++ toString n ++ ")")

/-- The fault that an error tells of. -/
def fault : IO.Error → FileFault
  | .noFileOrDirectory _ n words => faultOf n words
  | .alreadyExists _ n words => faultOf n words
  | .inappropriateType _ n words => faultOf n words
  | .permissionDenied _ n words => faultOf n words
  | .invalidArgument _ n words => faultOf n words
  | .resourceExhausted _ n words => faultOf n words
  | .noSuchThing _ n words => faultOf n words
  | .otherError n words => faultOf n words
  | e => .other (toString e)

/-- Try something with a file. -/
def attempt {α : Type} (act : IO α) : IO (Except FileFault α) := do
  match ← act.toBaseIO with
  | .ok a => pure (.ok a)
  | .error e => pure (.error (fault e))

/-- The names of what a directory holds. -/
def names (dir : String) : IO (List String) := do
  let here ← IO.currentDir
  let entries ← (here / dir).readDir
  pure (entries.toList.map (fun e => e.fileName))

/-- Whether there is a file or directory. -/
def isThere (path : String) : IO (Except FileFault Bool) := do
  let here ← IO.currentDir
  match ← attempt ((here / path).metadata) with
  | .ok _ => pure (.ok true)
  | .error .notFound => pure (.ok false)
  | .error e => pure (.error e)

instance : Files IO where
  read path := attempt (IO.FS.readFile path)
  write path text := attempt (IO.FS.writeFile path text)
  makeDirs path := attempt (IO.FS.createDirAll path)
  exists? := isThere
  list path := attempt (names path)

instance : Programs IO := ⟨fun l limit => pure (l.run limit {}).1⟩

/-- The time: that of a file made just now. -/
def now : IO Timestamp :=
  IO.FS.withTempFile (fun _ path => do
    let time := (← path.metadata).modified
    pure ⟨time.sec, time.nsec.toNat⟩)

/-- The directory of the settings when none is named: it stands in the data
    directory, which is in the home directory unless an absolute path is
    set for it. -/
def settingsDir : IO (Option String) := do
  let set := (← IO.getEnv "XDG_DATA_HOME").filter FilePath.isAbsolute
  let home := (← IO.getEnv "HOME").map (fun h => h ++ "/.local/share")
  let data := set.orElse (fun _ => home)
  pure (data.map (fun dir => FilePath.join dir CommandLine.programName))

end NodeFlow.Disk

open NodeFlow in
/-- Run the command line that the program was started with. -/
def main (args : List String) : IO UInt32 := do
  let ending ←
    CommandLine.run (← Disk.settingsDir) (← Disk.now) args
  IO.print ending.output
  match ending.message with
  | some text => IO.eprintln text
  | none => pure ()
  pure (UInt32.ofNat ending.status)
