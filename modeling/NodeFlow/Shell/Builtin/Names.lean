import NodeFlow.Shell.Builtin.Values

/-! # Commands on names

    A name of a command may stand for other characters, have a meaning of its
    own, or lead to a function, to a command that the shell knows, or to a
    program.  Programs are looked for in some directories. -/

namespace NodeFlow.Shell

/-- What a name of a command leads to. -/
inductive Meaning where
  /-- A function. -/
  | function (f : Function)
  /-- A command that the shell knows. -/
  | builtin
  /-- A program at a path. -/
  | program (path name : String)
  /-- A file at a path that is no program. -/
  | file (path : String)
  /-- Nothing, and why. -/
  | nothing (reason : FileFault)
  deriving Inhabited

namespace Names

/-- The directories in which programs are looked for when no others are
    set. -/
def usualPath : String :=
  "/usr/local/sbin:/usr/local/bin:/usr/sbin:/usr/bin:/sbin:/bin"

/-- The first of some directories with a program of a name. -/
def search? (s : Session) (w : World) (name : String) :
    List String → Option (String × String)
  | [] => none
  | dir :: rest =>
      let path :=
        if dir.isEmpty then "./" ++ name
        else if dir.endsWith "/" then dir ++ name
        else dir ++ "/" ++ name
      match Paths.lead w.files s.location path with
      | .program p => some (path, p)
      | _ => search? s w name rest

/-- What a name leads to among programs. -/
def programOf (name : String) : Act Meaning := do
  let s ← session
  let w ← world
  if name.toList.contains '/' then
    match Paths.lead w.files s.location name with
    | .program p => return .program name p
    | .file _ | .void | .full | .stream _ => return .file name
    | .directory _ | .elsewhere _ => return .nothing .isDirectory
    | .vacant _ => return .nothing .notFound
    | .nowhere e => return .nothing e
  else if name.isEmpty then return .nothing .notFound
  else
    let path :=
      if !s.looksAsUsual then (s.text? "PATH").getD usualPath
      else if s.dialect = .plain then usualPath
      else "/bin:/usr/bin"
    match search? s w name (path.splitOn ":") with
    | some (path, p) => return .program path p
    | none => return .nothing .notFound

/-- Whether the shell knows a command and uses it. -/
def isBuiltin (s : Session) (name : String) : Bool :=
  (Builtin.names s.dialect).contains name && !s.disabled.contains name

/-- What a name leads to, without functions if `bare`. -/
def meaningOf (bare : Bool) (name : String) : Act Meaning := do
  let s ← session
  let special := s.dialect = .plain && Builtin.special.contains name
  match if bare || special then none else s.functions.get? name with
  | some f => return .function f
  | none =>
      if isBuiltin s name then return .builtin else programOf name

/-- The words with a meaning of their own. -/
def keywords : Dialect → List String
  | .plain =>
      ["!", "case", "do", "done", "elif", "else", "esac", "fi", "for", "if",
        "in", "then", "until", "while", "\x7b", "\x7d"]
  | .extended =>
      ["if", "then", "else", "elif", "fi", "case", "esac", "for", "select",
        "while", "until", "do", "done", "in", "function", "time", "\x7b",
        "\x7d", "!", "[[", "]]", "coproc"]

/-- What stands for a command by its name, if names do that here. -/
def aliasOf? (s : Session) (name : String) : Option String :=
  if s.dialect = .plain || s.features.contains "expand_aliases" then
    s.aliases.get? name
  else none

/-- Remember where a program is and how often it has been run. -/
def remember (name path : String) (runs : Nat) : Act Unit :=
  change (fun s =>
    { s with
      found := (name, path, runs) :: s.found.filter (fun e => e.1 != name) })

/-- Remember that a program is run once more, or has been looked for. -/
def use (name path : String) : Act Unit := do
  let old := (((← session).found.lookup name).map (·.2)).getD 0
  remember name path (old + 1)

/-- The number by which a name has its place in the plain family, from the
    sum of its characters. -/
def weight (name : String) : Nat :=
  let cs := name.toList.map Char.toNat
  16 * cs.headD 0 + cs.foldl (· + ·) 0

/-- Names with something for each of them, in the order of numbers. -/
def inOrder {α : Type} (number : String → Nat) (all : List (String × α)) :
    List (String × α) :=
  all.mergeSort (fun a b => decide (number a.1 ≤ number b.1))

/-- The programs that have been found, in the order in which they are
    listed. -/
def foundInOrder (s : Session) : List (String × String × Nat) :=
  inOrder
    (fun name =>
      if s.dialect = .plain then weight name % 32768 % 31
      else Content.bucket name % 256)
    s.found.reverse

end Names

namespace Builtin

/-! ## What names mean -/

/-- How the meaning of a name is told. -/
inductive Telling where
  /-- In a sentence. -/
  | sentence
  /-- By the word that runs it. -/
  | word
  /-- By its kind. -/
  | kind
  /-- By the path of a program. -/
  | path
  deriving DecidableEq, Repr

/-- What is told of a name in the plain family, and whether it means
    anything. -/
def tellPlain (t : Telling) (name : String) : Act (String × Bool) := do
  let s ← session
  let say (sentence word : String) : String :=
    match t with
    | .sentence => name ++ sentence ++ "\n"
    | _ => word ++ "\n"
  if (Names.keywords .plain).contains name then
    return (say " is a shell keyword" name, true)
  else
    match s.aliases.get? name with
    | some text =>
        return (say (" is an alias for " ++ text)
          ("alias " ++ name ++ "=" ++ Quote.plainSingle text), true)
    | none =>
        match ← Names.meaningOf false name with
        | .function _ => return (say " is a shell function" name, true)
        | .builtin =>
            let kind := if special.contains name then "special shell " else
              "shell "
            return (say (" is a " ++ kind ++ "builtin") name, true)
        | .program path _ =>
            let known := !s.looksAsUsual && (s.found.lookup name).isSome
            unless s.looksAsUsual || name.toList.contains '/' do
              Names.remember name path 0
            return (say ((if known then " is a tracked alias for " else " is ")
              ++ path) path, true)
        | .file path => return (say (" is " ++ path) path, true)
        | .nothing _ =>
            return (if t = .sentence then name ++ ": not found\n" else "",
              false)

/-- All that a name means in the extended family, each told in a way; the
    first of them is what is run. -/
def meanings (t : Telling) (functions : Bool) (name : String) :
    Act (List String) := do
  let s ← session
  let say (kind sentence word : String) : List String :=
    match t with
    | .sentence => [name ++ sentence ++ "\n"]
    | .word => [word ++ "\n"]
    | .kind => [kind ++ "\n"]
    | .path => []
  let alias' :=
    match Names.aliasOf? s name with
    | some text =>
        say "alias" (" is aliased to \x60" ++ text ++ "'")
          ("alias " ++ name ++ "=" ++ Quote.single text)
    | none => []
  let keyword :=
    if (Names.keywords .extended).contains name then
      say "keyword" " is a shell keyword" name
    else []
  let function :=
    match if functions then s.functions.get? name else none with
    | some f =>
        say "function"
          (" is a function\n" ++ Listing.function name f.body) name
    | none => []
  let builtin :=
    if Names.isBuiltin s name then say "builtin" " is a shell builtin" name
    else []
  let program ←
    match ← Names.programOf name with
    | .program path _ =>
        let hashed := !s.looksAsUsual && !name.toList.contains '/'
        let known := if hashed then s.found.lookup name else none
        if known.isSome then Names.use name path
        let sentence :=
          match known with
          | some (path, _) => " is hashed (" ++ path ++ ")"
          | none => " is " ++ path
        pure (match t with
          | .path => [path ++ "\n"]
          | _ => say "file" sentence path)
    | _ => pure []
  return alias' ++ keyword ++ function ++ builtin ++ program

/-- Tell what names mean; complains about those that mean nothing. -/
def tellAll (command : String) (t : Telling) (functions every quiet : Bool) :
    List String → Work (Nat × Nat)
  | [] => return (0, 0)
  | name :: rest => do
      let (text, found) ←
        match ← liftM dialect with
        | .plain => liftM (tellPlain t name)
        | .extended => do
            let all ← liftM (meanings t functions name)
            let shown := if every then all else all.take 1
            pure (String.join shown, !all.isEmpty)
      let _ ← print command text
      let extended ← liftM isExtended
      if !found && extended && !quiet then
        liftM (complain (command ++ ": " ++ name ++ ": not found"))
      let (good, bad) ← tellAll command t functions every quiet rest
      return (good + (if found then 1 else 0), bad + (if found then 0 else 1))

/-- Tell what names mean. -/
def type (args : List String) : Work Nat := do
  match ← liftM dialect with
  | .plain =>
      let (_, bad) ← tellAll "type" .sentence true false false args
      return if bad = 0 then 0 else 127
  | .extended =>
      let (options, names) ← readOptions "type" "afptP" args
      let path := has options 'P'
      let t :=
        if has options 't' then Telling.kind
        else if has options 'p' || path then Telling.path
        else Telling.sentence
      if has options 'p' && !path then
        let programs ← liftM (names.filterM (fun n => do
          let s ← session
          return !Names.isBuiltin s n && (s.functions.get? n).isNone))
        let (_, bad) ← tellAll "type" .path true (has options 'a') true
          programs
        return if bad = 0 then 0 else 1
      else
        let quiet := t != .sentence
        let (_, bad) ←
          tellAll "type" t (!has options 'f') (has options 'a') quiet names
        return if bad = 0 then 0 else 1

/-- Tell what names mean, for `command`; in a sentence if `long`. -/
def tell (long : Bool) (names : List String) : Work Nat := do
  let t := if long then Telling.sentence else Telling.word
  match ← liftM dialect with
  | .plain =>
      let (_, bad) ← tellAll "command" t true false true (names.take 1)
      return if bad = 0 then 0 else 127
  | .extended =>
      let (good, _) ← tellAll "command" t true false (!long) names
      return if 0 < good || names.isEmpty then 0 else 1

/-! ## alias -/

/-- The line of a name that stands for something. -/
def aliasLine (d : Dialect) (name text : String) : String :=
  match d with
  | .plain => name ++ "=" ++ Quote.plainSingle text ++ "\n"
  | .extended => "alias " ++ name ++ "=" ++ Quote.single text ++ "\n"

/-- Let names stand for something, or show for what they stand. -/
def aliasAll : List String → Work Nat
  | [] => return 0
  | arg :: rest => do
      let s ← liftM session
      let cs := arg.toList
      let name := String.ofList (cs.takeWhile (fun c => c != '='))
      let first ←
        match cs.drop name.length with
        | _ :: value =>
            if name.isEmpty then noAlias arg
            else if s.dialect = .extended && !isAliasName name then do
              liftM (complain
                ("alias: \x60" ++ name ++ "': invalid alias name"))
              pure 1
            else do
              liftM (change (fun s =>
                { s with
                  aliases := s.aliases.insert name (String.ofList value) }))
              pure 0
        | [] =>
            match s.aliases.get? name with
            | some text => print "alias" (aliasLine s.dialect name text)
            | none => noAlias arg
      return max first (← aliasAll rest)
where
  /-- Complain about a name that stands for nothing. -/
  noAlias (arg : String) : Work Nat := do
    match ← liftM dialect with
    | .plain => liftM (sayLine ("alias: " ++ arg ++ " not found"))
    | .extended => liftM (complain ("alias: " ++ arg ++ ": not found"))
    return 1
  /-- Whether a text may stand for something. -/
  isAliasName (name : String) : Bool :=
    name.toList.all (fun c =>
      !(Quote.isMeaningful false c || c = '/' || c = '$'))

/-- Let names stand for something, or show for what they stand. -/
def aliases (args : List String) : Work Nat := do
  let s ← liftM session
  let entries :=
    match s.dialect with
    | .plain => Names.inOrder (Names.weight · % 39) s.aliases.entries
    | .extended => s.aliases.entries
  let all : Work Nat :=
    print "alias" (String.join (entries.map (fun (n, t) =>
      aliasLine s.dialect n t)))
  match s.dialect with
  | .plain => if args.isEmpty then all else aliasAll args
  | .extended =>
      let (options, names) ← readOptions "alias" "p" args
      if names.isEmpty || has options 'p' then
        let _ ← all
      aliasAll names

/-- Let names stand for themselves again. -/
def unaliasAll : List String → Work Nat
  | [] => return 0
  | name :: rest => do
      let s ← liftM session
      let first ←
        if (s.aliases.get? name).isSome then do
          liftM (change (fun s => { s with aliases := s.aliases.erase name }))
          pure 0
        else do
          match s.dialect with
          | .plain => liftM (sayLine ("unalias: " ++ name ++ " not found"))
          | .extended =>
              liftM (complain ("unalias: " ++ name ++ ": not found"))
          pure 1
      return max first (← unaliasAll rest)

/-- Let names stand for themselves again. -/
def unalias (args : List String) : Work Nat := do
  let (options, names) ← readOptions "unalias" "a" args
  if has options 'a' then
    liftM (change (fun s => { s with aliases := Table.empty }))
    return 0
  else if names.isEmpty then
    if ← liftM isExtended then misuse "unalias" else return 0
  else unaliasAll names

/-! ## hash -/

/-- Look for programs and remember where they are. -/
def hashAll : List String → Work Nat
  | [] => return 0
  | name :: rest => do
      let s ← liftM session
      let known := Names.isBuiltin s name || (s.functions.get? name).isSome
      let first ←
        if known || name.toList.contains '/' then pure 0
        else
          match ← liftM (Names.programOf name) with
          | .program path _ => do
              liftM (Names.remember name path 0)
              pure 0
          | _ => do
              liftM (complain ("hash: " ++ name ++ ": not found"))
              pure 1
      return max first (← hashAll rest)

/-- Show the paths of programs, or forget them. -/
def hashKnown (forgets several : Bool) : List String → Work Nat
  | [] => return 0
  | name :: rest => do
      let s ← liftM session
      let first ←
        match s.found.lookup name with
        | some (path, _) =>
            if forgets then do
              liftM (change (fun s =>
                { s with found := s.found.filter (fun e => e.1 != name) }))
              pure 0
            else
              liftM (Names.use name path)
              print "hash" ((if several then name ++ "\t" else "") ++ path
                ++ "\n")
        | none => do
            liftM (complain ("hash: " ++ name ++ ": not found"))
            pure 1
      return max first (← hashKnown forgets several rest)

/-- Look for programs, or show those that have been found. -/
def hash (args : List String) : Work Nat := do
  let extended ← liftM isExtended
  let (options, names) ←
    readOptions "hash" (if extended then "dlp:rt" else "rv") args
  if has options 'r' then
    liftM (change (fun s => { s with found := [] }))
    hashAll names
  else if has options 'd' || has options 't' then
    hashKnown (has options 'd') (1 < names.length) names
  else
    match names, argumentOf? options 'p' with
    | [], _ =>
        let s ← liftM session
        if s.found.isEmpty then
          if extended then print "hash" "hash: hash table empty\n"
          else return 0
        else
          let lines := (Names.foundInOrder s).map (fun (name, path, n) =>
            if !extended then path ++ "\n"
            else if has options 'l' then
              "builtin hash -p " ++ path ++ " " ++ name ++ "\n"
            else
              let count := toString n
              String.ofList (List.replicate (4 - count.length) ' ') ++ count
                ++ "\t" ++ path ++ "\n")
          let title :=
            if extended && !has options 'l' then "hits\tcommand\n" else ""
          print "hash" (title ++ String.join lines)
    | names, some path =>
        for name in names do liftM (Names.remember name path 0)
        return 0
    | names, none => hashAll names

/-! ## enable and caller -/

/-- Use commands that the shell knows, or do not use them. -/
def enableAll (on : Bool) : List String → Work Nat
  | [] => return 0
  | name :: rest => do
      let first ←
        if extendedNames.contains name then do
          liftM (change (fun s =>
            let others := s.disabled.filter (fun n => n != name)
            { s with disabled := if on then others else name :: others }))
          pure 0
        else do
          liftM (complain ("enable: " ++ name ++ ": not a shell builtin"))
          pure 1
      return max first (← enableAll on rest)

/-- Use commands that the shell knows, or do not use them. -/
def enable (args : List String) : Work Nat := do
  let (options, names) ← readOptions "enable" "adf:nps" args
  let s ← liftM session
  if !names.isEmpty then enableAll (!has options 'n') names
  else
    let shown := extendedNames.filter (fun n =>
      (!has options 's' || special.contains n)
        && (has options 'a' || s.disabled.contains n == has options 'n'))
    print "enable" (String.join (shown.map (fun n =>
      (if s.disabled.contains n then "enable -n " else "enable ") ++ n
        ++ "\n")))

/-- Tell where the function has been called. -/
def caller (args : List String) : Work Nat := do
  let s ← liftM session
  let n :=
    match args with
    | [] => some 0
    | arg :: _ => (number? arg).map Int.toNat
  match n with
  | none =>
      liftM (complain ("caller: " ++ args.headD "" ++ ": invalid number"))
      misuse "caller"
  | some n =>
      match s.frames.drop n with
      | [] => return 1
      | f :: rest =>
          match args, rest with
          | [], _ =>
              let source := (rest.head?.map Frame.source).getD "NULL"
              print "caller" (toString f.line ++ " " ++ source ++ "\n")
          | _, [] => return 1
          | _, g :: _ =>
              let name := if g.isFunction then g.name else "source"
              print "caller" (toString f.line ++ " " ++ name ++ " "
                ++ g.source ++ "\n")

end Builtin
end NodeFlow.Shell
