import NodeFlow.Shell.Parameters

/-! # Where paths lead

    A path leads to a file, to a directory, to a device, to a stream of the
    shell, or nowhere.  The files of a shell stand below one directory; of what
    is outside of it only a few places are known. -/

namespace NodeFlow.Shell

/-- Where a path leads. -/
inductive Spot where
  /-- To a file. -/
  | file (way : FileTree.Way)
  /-- To a directory. -/
  | directory (way : FileTree.Way)
  /-- To nothing, but its directory exists. -/
  | vacant (way : FileTree.Way)
  /-- To a device that gives nothing and takes anything. -/
  | void
  /-- To a device that takes nothing. -/
  | full
  /-- To where a stream of the shell leads. -/
  | stream (n : Nat)
  /-- To a directory outside. -/
  | elsewhere (path : String)
  /-- To a program outside. -/
  | program (name : String)
  /-- Nowhere. -/
  | nowhere (reason : FileFault)
  deriving DecidableEq, Repr

namespace Paths

/-- The directory that the files of a shell stand in. -/
def top : String := "/work"

/-- The path of a place. -/
def ofLocation : Location → String
  | .inside way => "/".intercalate (top :: way.map Octets.ofText)
  | .outside path => path

/-- The directories that there are outside. -/
def directories : List String :=
  ["/", "/bin", "/dev", "/dev/fd", "/etc", "/home", "/lib", "/opt", "/proc",
    "/root", "/sbin", "/sys", "/tmp", "/usr", "/usr/bin", "/usr/lib",
    "/usr/local", "/usr/local/bin", "/usr/sbin", "/usr/share", "/var",
    "/var/tmp"]

/-- The directories with programs. -/
def programDirectories : List String := ["/bin", "/usr/bin"]

/-- The programs that there are. -/
def programs : List String :=
  ["bash", "cat", "dash", "false", "sh", "true"]

/-- The parts of a path without those that go back. -/
def straightened (done : List String) : List String → List String
  | [] => done.reverse
  | p :: rest =>
      if p = "" || p = "." then straightened done rest
      else if p = ".." then straightened done.tail rest
      else straightened (p :: done) rest

/-- Where a path from the root leads by its parts, as far as that is known. -/
def outside (parts : List String) : Spot :=
  let path := "/" ++ "/".intercalate parts
  match parts with
  | ["dev", "null"] => .void
  | ["dev", "full"] => .full
  | ["dev", "stdin"] => .stream 0
  | ["dev", "stdout"] => .stream 1
  | ["dev", "stderr"] => .stream 2
  | ["dev", "fd", n] =>
      if isNumber n then .stream (decimalValue n.toList) else .nowhere .notFound
  | ["bin", name] | ["usr", "bin", name] =>
      if programs.contains name then .program name else .nowhere .notFound
  | _ =>
      if directories.contains path then .elsewhere path
      else .nowhere .notFound

/-- Where the parts of a path lead from a directory. -/
def walk (files : FileTree) : FileTree.Way → List String → Spot
  | way, [] =>
      match files.entry? way with
      | some .directory => .directory way
      | some _ => .file way
      | none => .vacant way
  | way, p :: rest =>
      match files.entry? way with
      | some .directory =>
          if p = "" || p = "." then walk files way rest
          else if p = ".." then
            if !way.isEmpty then walk files way.dropLast rest
            else if rest.all (fun p => p = "" || p = ".") then .elsewhere "/"
            else .nowhere .notFound
          else if FilePath.isTooLong p then .nowhere .nameTooLong
          else walk files (way ++ [p]) rest
      | some _ => .nowhere .notDirectory
      | none => .nowhere .notFound

/-- Where a path leads from a place. -/
def lead (files : FileTree) (location : Location) (path : String) : Spot :=
  let text := Octets.toText path
  if text.isEmpty then .nowhere .notFound
  else if FilePath.longestPath < path.length then .nowhere .nameTooLong
  else
    let parts := FilePath.parts text
    if FilePath.isAbsolute text then
      let straight := straightened [] parts
      match (FilePath.parts top).tail, straight with
      | [root], p :: rest =>
          if p = root then walk files [] rest else outside straight
      | _, _ => outside straight
    else
      match location with
      | .inside way => walk files way parts
      | .outside here =>
          outside (straightened [] (FilePath.parts here ++ parts))

/-- The fault of a path in words. -/
def reason : FileFault → String
  | .notFound => "No such file or directory"
  | .notDirectory => "Not a directory"
  | .isDirectory => "Is a directory"
  | .nameTooLong => "File name too long"
  | .alreadyExists => "File exists"
  | _ => "Permission denied"

end Paths

/-- Where a path leads. -/
def spotOf (path : String) : Act Spot := do
  return Paths.lead (← world).files (← session).location path

/-- The octets of what a path leads to, as far as they can be read at once. -/
def contentAt (path : String) : Act (Except FileFault (List Char)) := do
  match ← spotOf path with
  | .file way => return .ok (fileContent (← world).files way)
  | .directory _ | .elsewhere _ => return .error .isDirectory
  | .vacant _ => return .error .notFound
  | .void | .full | .program _ => return .ok []
  | .stream n =>
      match ← readAll n with
      | some text => return .ok text.toList
      | none => return .error .notFound
  | .nowhere e => return .error e

end NodeFlow.Shell
