import NodeFlow.Files.Basic
import NodeFlow.Table
import NodeFlow.Text.Utf8

/-! # Files in memory

    A tree of files is a table from paths to texts and directories.  The
    paths in the table are made of names alone; the top directory has the
    empty path and is always there. -/

namespace NodeFlow

/-- What a path in a tree of files leads to. -/
inductive FileEntry where
  /-- A file with its text. -/
  | file (text : String)
  /-- A file with octets that are no text. -/
  | raw (octets : List Nat)
  /-- A directory. -/
  | directory
  deriving DecidableEq, Repr

/-- Files in memory. -/
structure FileTree where
  /-- Everything below the top, by path. -/
  entries : Table String FileEntry := Table.empty
  deriving DecidableEq, Repr

namespace FileTree

/-- A way from the top, by names. -/
abbrev Way : Type := List String

/-- The path of a way. -/
def pathOf (way : Way) : String := "/".intercalate way

/-- What a way leads to. -/
def entry? (t : FileTree) (way : Way) : Option FileEntry :=
  if way.isEmpty then some .directory else t.entries.get? (pathOf way)

/-- Where a path leads. -/
inductive Place where
  /-- To a file. -/
  | file (way : Way) (text : String)
  /-- To a file that holds no text. -/
  | raw (way : Way) (octets : List Nat)
  /-- To a directory. -/
  | directory (way : Way)
  /-- To nothing, but its directory exists. -/
  | vacant (way : Way)
  deriving Repr

/-- The place that a way leads to from a directory. -/
def placeOf (t : FileTree) (way : Way) : Place :=
  match t.entry? way with
  | some (.file text) => .file way text
  | some (.raw octets) => .raw way octets
  | some .directory => .directory way
  | none => .vacant way

/-- Go along the parts of a path from a place. -/
def walk (t : FileTree) : Place → List String → Except FileFault Place
  | place, [] => .ok place
  | .directory way, part :: rest =>
      if part = "" || part = "." then t.walk (.directory way) rest
      else if part = ".." then t.walk (.directory way.dropLast) rest
      else if FilePath.isTooLong part then .error .nameTooLong
      else t.walk (t.placeOf (way ++ [part])) rest
  | .file _ _, _ :: _ | .raw _ _, _ :: _ => .error .notDirectory
  | .vacant way, part :: rest =>
      if (part :: rest).all (fun p => p == "") then .ok (.vacant way)
      else .error .notFound

/-- Where a path leads.  Only the top can be reached from the root. -/
def locate (t : FileTree) (path : String) : Except FileFault Place :=
  if path.isEmpty then .error .notFound
  else
    match FilePath.fault? path with
    | some e => .error e
    | none =>
        if FilePath.isAbsolute path then
          match FilePath.components path with
          | [] => .ok (.directory [])
          | _ => .error .notFound
        else t.walk (.directory []) (FilePath.parts path)

/-- The text of a file. -/
def read (t : FileTree) (path : String) : Except FileFault String :=
  match t.locate path with
  | .ok (.file _ text) => .ok text
  | .ok (.raw _ _) => .error .notText
  | .ok (.directory _) => .error .isDirectory
  | .ok (.vacant _) => .error .notFound
  | .error e => .error e

/-- Put an entry at the end of a way. -/
def put (t : FileTree) (way : Way) (e : FileEntry) : FileTree :=
  ⟨t.entries.insert (pathOf way) e⟩

/-- Write a text to a file. -/
def write (t : FileTree) (path text : String) :
    Except FileFault FileTree :=
  match t.locate path with
  | .ok (.file way _) | .ok (.raw way _) => .ok (t.put way (.file text))
  | .ok (.directory _) => .error .isDirectory
  | .ok (.vacant way) =>
      if FilePath.endsInSlash path then .error .isDirectory
      else .ok (t.put way (.file text))
  | .error e => .error e

/-- Make the directories along the parts of a path, as far as they are
    missing. -/
def makeAlong (t : FileTree) (way : Way) :
    List String → Except FileFault FileTree
  | [] => .ok t
  | part :: rest =>
      if part = "" || part = "." then t.makeAlong way rest
      else if part = ".." then t.makeAlong way.dropLast rest
      else if FilePath.isTooLong part then .error .nameTooLong
      else
        let next := way ++ [part]
        match t.entry? next with
        | some .directory => t.makeAlong next rest
        | some (.file _) | some (.raw _) =>
            if rest.all (fun p => p == "") then .error .alreadyExists
            else .error .notDirectory
        | none => (t.put next .directory).makeAlong next rest

/-- Make a directory and those above it. -/
def makeDirs (t : FileTree) (path : String) : Except FileFault FileTree :=
  match FilePath.fault? path with
  | some e => .error e
  | none => t.makeAlong [] (FilePath.parts path)

/-- Whether there is a file or directory. -/
def exists? (t : FileTree) (path : String) : Except FileFault Bool :=
  match t.locate path with
  | .ok (.vacant _) => .ok false
  | .ok _ => .ok true
  | .error .notFound => .ok false
  | .error e => .error e

/-- The name that a path has in a directory, if it is right in it. -/
def nameIn? (way : Way) (path : String) : Option String :=
  match (FilePath.parts path).reverse with
  | name :: above => if above.reverse = way then some name else none
  | [] => none

/-- The names of what a directory holds. -/
def list (t : FileTree) (path : String) : Except FileFault (List String) :=
  match t.locate path with
  | .ok (.directory way) => .ok (t.entries.keys.filterMap (nameIn? way))
  | .ok (.file _ _) | .ok (.raw _ _) => .error .notDirectory
  | .ok (.vacant _) => .error .notFound
  | .error e => .error e

/-- The entry of a file with octets: with their text, if they are one. -/
def entryOf (octets : List Nat) : FileEntry :=
  let text := Text.ofOctets octets
  if Text.octets text = octets then .file text else .raw octets

/-- A tree of files with texts; the directories that their paths go through
    are made. -/
def ofTexts (files : List (String × String)) : FileTree :=
  files.foldl (fun t (path, text) =>
    let t :=
      match (FilePath.parent? path).map t.makeDirs with
      | some (.ok t') => t'
      | _ => t
    match t.write path text with
    | .ok t' => t'
    | .error _ => t) {}

/-- Do something that changes the tree, unless it is faulty. -/
def change (f : FileTree → Except FileFault FileTree) :
    StateM FileTree (Except FileFault Unit) :=
  fun t =>
    match f t with
    | .ok t' => (.ok (), t')
    | .error e => (.error e, t)

instance : Files (StateM FileTree) where
  read path := fun t => (t.read path, t)
  write path text := change (fun t => t.write path text)
  makeDirs path := change (fun t => t.makeDirs path)
  exists? path := fun t => (t.exists? path, t)
  list path := fun t => (t.list path, t)

end FileTree
end NodeFlow
