import NodeFlow.Text.Visible

/-! # Files

    What a host asks of its files, and the reasons why it may not get it.
    The files themselves may be in memory or outside. -/

namespace NodeFlow

/-- Why something could not be done with a file. -/
inductive FileFault where
  /-- There is no such file or directory. -/
  | notFound
  /-- There is one where there should be none. -/
  | alreadyExists
  /-- A part of the path is no directory. -/
  | notDirectory
  /-- The path names a directory. -/
  | isDirectory
  /-- The path or a name in it has too many octets. -/
  | nameTooLong
  /-- The path holds a character that no path can hold. -/
  | badPath
  /-- What the file holds is no text. -/
  | notText
  /-- Some other reason, in words. -/
  | other (text : String)
  deriving DecidableEq, Repr

/-- The wording of a fault. -/
def FileFault.message : FileFault → String
  | .notFound => "No such file or directory (os error 2)"
  | .alreadyExists => "File exists (os error 17)"
  | .notDirectory => "Not a directory (os error 20)"
  | .isDirectory => "Is a directory (os error 21)"
  | .nameTooLong => "File name too long (os error 36)"
  | .badPath => "file name contained an unexpected NUL byte"
  | .notText => "stream did not contain valid UTF-8"
  | .other text => text

/-- Access to files. -/
class Files (m : Type → Type) where
  /-- The text of a file. -/
  read : String → m (Except FileFault String)
  /-- Write a text to a file, in place of what it held. -/
  write : String → String → m (Except FileFault Unit)
  /-- Make a directory and those above it, as far as they are missing. -/
  makeDirs : String → m (Except FileFault Unit)
  /-- Whether there is a file or directory. -/
  exists? : String → m (Except FileFault Bool)
  /-- The names of what a directory holds. -/
  list : String → m (Except FileFault (List String))

namespace FilePath

/-- The parts of a path between its slashes. -/
def parts (path : String) : List String :=
  (path.toList.splitOn '/').map String.ofList

/-- The octets of the longest name of a file. -/
def longestName : Nat := 255

/-- Whether a name has more octets than a file system takes. -/
def isTooLong (name : String) : Bool := longestName < name.utf8ByteSize

/-- The octets of the longest path. -/
def longestPath : Nat := 4095

/-- What is wrong with a path as it stands, if anything is. -/
def fault? (path : String) : Option FileFault :=
  if path.toList.contains (Char.ofNat 0) then some .badPath
  else if longestPath < path.utf8ByteSize then some .nameTooLong
  else none

/-- Whether a path starts at the root. -/
def isAbsolute (path : String) : Bool := path.startsWith "/"

/-- Whether a path ends in a slash. -/
def endsInSlash (path : String) : Bool := path.endsWith "/"

/-- The path of something in a directory. -/
def join (dir name : String) : String :=
  if isAbsolute name || dir.isEmpty then name
  else if endsInSlash dir then dir ++ name
  else dir ++ "/" ++ name

/-- The parts that name something: neither empty nor a single dot, except
    for a dot that the path starts with. -/
def components (path : String) : List String :=
  match parts path with
  | "." :: rest => "." :: rest.filter (fun p => p != "" && p != ".")
  | all => all.filter (fun p => p != "" && p != ".")

/-- A path read from its end, without the slashes and single dots that it
    ends in. -/
def trimEnd : List Char → List Char
  | '/' :: rest => trimEnd rest
  | '.' :: '/' :: rest => trimEnd rest
  | path => path

/-- The path of the directory above, if the path names something: a single
    name has the empty path above it. -/
def parent? (path : String) : Option String :=
  match trimEnd path.toList.reverse with
  | [] => none
  | named =>
      match trimEnd (named.dropWhile (fun c => c != '/')) with
      | [] => some (if isAbsolute path then "/" else "")
      | above => some (String.ofList above.reverse)

/-- What follows the last dot of a name, unless the name starts with it. -/
def extension? (name : String) : Option String :=
  match (name.splitOn ".").reverse with
  | last :: before =>
      if name = ".." || before.isEmpty || before = [""] then none
      else some last
  | [] => none

/-- A path between quotes, with characters that do not print escaped. -/
def quoted (path : String) : String :=
  let escape (c : Char) : List Char :=
    match c with
    | '"' => "\\\"".toList
    | '\'' => "\\'".toList
    | '\\' => "\\\\".toList
    | '\n' => "\\n".toList
    | '\r' => "\\r".toList
    | '\t' => "\\t".toList
    | '\x00' => "\\0".toList
    | c =>
        if Text.isVisible c then [c]
        else "\\u\x7b".toList ++ Nat.toDigits 16 c.toNat ++ ['\x7d']
  "\"" ++ String.ofList (path.toList.flatMap escape) ++ "\""

end FilePath
end NodeFlow
