import NodeFlow.Shell.Builtin.Values

/-! # Commands on places and limits

    These commands change where the shell works, tell it, and set what new
    files and the shell itself may be. -/

namespace NodeFlow.Shell

namespace Builtin

/-! ## cd and pwd -/

/-- Work somewhere else. -/
def moveTo (place : Location) : Act Unit := do
  let s ← session
  let old := Paths.ofLocation s.location
  change (fun s =>
    { s with formerLocation := s.location, location := place })
  setText "OLDPWD" old
  setText "PWD" (Paths.ofLocation place)

/-- The place that a path leads to, if it is one. -/
def placeAt (path : String) : Act (Except FileFault Location) := do
  match ← spotOf path with
  | .directory way => return .ok (.inside way)
  | .elsewhere p => return .ok (.outside p)
  | .vacant _ => return .error .notFound
  | .nowhere e => return .error e
  | _ => return .error .notDirectory

/-- Whether a path is looked for in further directories. -/
def isSearched (path : String) : Bool :=
  !path.startsWith "/" && path != "." && path != ".."
    && !path.startsWith "./" && !path.startsWith "../"

/-- The first of some directories in which a path leads to a place. -/
def searchPlace (path : String) :
    List String → Act (Option (Location × Bool))
  | [] => return none
  | dir :: rest => do
      let whole := if dir.isEmpty then path else FilePath.join dir path
      match ← placeAt whole with
      | .ok place => return some (place, !dir.isEmpty)
      | .error _ => searchPlace path rest

/-- Work at the place that a path leads to; shows it if `shows`. -/
def enterPlace (path : String) (shows : Bool) : Work Nat := do
  let s ← liftM session
  let further :=
    if isSearched path then
      match s.text? "CDPATH" with
      | some p => if p.isEmpty then [] else p.splitOn ":"
      | none => []
    else []
  let shown (shows : Bool) : Work Nat := do
    if shows then
      print "cd" (Paths.ofLocation (← liftM session).location ++ "\n")
    else return 0
  match ← liftM (searchPlace path further) with
  | some (place, named) =>
      liftM (moveTo place)
      shown (shows || named)
  | none =>
      match ← liftM (placeAt path) with
      | .ok place =>
          liftM (moveTo place)
          shown shows
      | .error e =>
          match s.dialect with
          | .plain => refuse ("cd: can't cd to " ++ path) 2
          | .extended =>
              refuse ("cd: " ++ path ++ ": " ++ Paths.reason e) 1

/-- Work somewhere else. -/
def cd (args : List String) : Work Nat := do
  let s ← liftM session
  let extended := s.dialect = .extended
  let (_, args) ← readOptions "cd" (if extended then "eLP@" else "LP") args
  match args with
  | [] =>
      match s.text? "HOME" with
      | some home => if home.isEmpty then stay else enterPlace home false
      | none => if extended then refuse "cd: HOME not set" 1 else stay
  | arg :: more =>
      if extended && !more.isEmpty then refuse "cd: too many arguments" 1
      else if arg = "-" then
        match s.text? "OLDPWD" with
        | some old => enterPlace old true
        | none =>
            if extended then refuse "cd: OLDPWD not set" 1
            else print "cd" (Paths.ofLocation s.location ++ "\n")
      else if arg.isEmpty then stay
      else enterPlace arg false
where
  /-- Move to where the shell works already. -/
  stay : Work Nat := do
    liftM (moveTo (← liftM session).location)
    return 0

/-- Tell where the shell works. -/
def pwd (args : List String) : Work Nat := do
  let _ ← readOptions "pwd" "LP" args
  print "pwd" (Paths.ofLocation (← liftM session).location ++ "\n")

/-! ## The stack of places -/

/-- A place as it is shown in a list. -/
def shownPlace (s : Session) (long : Bool) (place : Location) : String :=
  let path := Paths.ofLocation place
  match if long then none else s.text? "HOME" with
  | some home =>
      if home.length < 2 then path
      else if path = home then "~"
      else if path.startsWith (home ++ "/") then
        "~" ++ (path.drop home.length).toString
      else path
  | none => path

/-- Show the places that the shell goes back to. -/
def showPlaces (command : String) (long : Bool) : Work Nat := do
  let s ← liftM session
  let all := (s.location :: s.stack).map (shownPlace s long)
  print command (" ".intercalate all ++ "\n")

/-- The place in the stack that an argument counts, from either end. -/
def counted? (size : Nat) (arg : String) : Option (Option Nat) :=
  match arg.toList with
  | sign :: ds =>
      if (sign = '+' || sign = '-') && isNumber (String.ofList ds) then
        let n := decimalValue ds
        if size ≤ n then some none
        else some (some (if sign = '+' then n else size - 1 - n))
      else none
  | [] => none

/-- Put the places in another order, and work at the first one. -/
def putPlaces (all : List Location) : Act Unit := do
  match all with
  | [] => return ()
  | place :: rest =>
      if place != (← session).location then moveTo place
      change (fun s => { s with stack := rest })

/-- Complain about a place that there is not in the stack. -/
def noPlace {α : Type} (command arg : String) : Work α := do
  if (← liftM session).stack.isEmpty then
    refuse (command ++ ": directory stack empty") 1
  else
    refuse (command ++ ": " ++ arg ++ ": directory stack index out of range") 1

/-- Work somewhere else, and remember where the shell has worked. -/
def pushd (args : List String) : Work Nat := do
  let s ← liftM session
  let stays := args.contains "-n"
  let args := args.filter (fun a => a != "-n" && a != "--")
  let all := s.location :: s.stack
  match args with
  | [] =>
      match s.stack with
      | [] => refuse "pushd: no other directory" 1
      | place :: rest =>
          liftM (putPlaces (place :: s.location :: rest))
          showPlaces "pushd" false
  | arg :: _ =>
      match counted? all.length arg with
      | some none => noPlace "pushd" arg
      | some (some n) =>
          liftM (putPlaces (all.drop n ++ all.take n))
          showPlaces "pushd" false
      | none =>
          match ← liftM (placeAt arg) with
          | .ok place =>
              if stays then
                liftM (change (fun s => { s with stack := place :: s.stack }))
              else liftM (putPlaces (place :: all))
              showPlaces "pushd" false
          | .error e => refuse ("pushd: " ++ arg ++ ": " ++ Paths.reason e) 1

/-- Work where the shell has worked before. -/
def popd (args : List String) : Work Nat := do
  let s ← liftM session
  let stays := args.contains "-n"
  let args := args.filter (fun a => a != "-n" && a != "--")
  if s.stack.isEmpty then refuse "popd: directory stack empty" 1
  else
    let all := s.location :: s.stack
    let n :=
      match args with
      | [] => some (some (if stays then 1 else 0))
      | arg :: _ => counted? all.length arg
    match n with
    | some (some n) =>
        liftM (putPlaces (all.take n ++ all.drop (n + 1)))
        showPlaces "popd" false
    | some none => noPlace "popd" (args.headD "")
    | none =>
        refuse ("popd: " ++ args.headD "" ++ ": invalid argument") 1

/-- Show the places that the shell goes back to, or forget them. -/
def dirs (args : List String) : Work Nat := do
  let s ← liftM session
  let letters := (args.filter (fun a => a.startsWith "-"
    && !isNumber (a.drop 1).toString)).flatMap String.toList
  let all := s.location :: s.stack
  let long := letters.contains 'l'
  let shown := all.map (shownPlace s long)
  match args.find? (fun a => (counted? all.length a).isSome) with
  | some arg =>
      match counted? all.length arg with
      | some (some n) => print "dirs" (shown.getD n "" ++ "\n")
      | _ => noPlace "dirs" arg
  | none =>
      if letters.contains 'c' then
        liftM (change (fun s => { s with stack := [] }))
        return 0
      else if letters.contains 'v' then
        print "dirs" (String.join (shown.zipIdx.map (fun (p, i) =>
          (if i < 10 then " " else "") ++ toString i ++ "  " ++ p ++ "\n")))
      else if letters.contains 'p' then
        print "dirs" (String.join (shown.map (· ++ "\n")))
      else showPlaces "dirs" long

/-! ## umask -/

/-- The rights of one kind of users, in letters. -/
def rightsText (mask shift : Nat) : String :=
  let bits := 7 - mask / shift % 8
  (if bits / 4 % 2 = 1 then "r" else "")
    ++ (if bits / 2 % 2 = 1 then "w" else "")
    ++ (if bits % 2 = 1 then "x" else "")

/-- The rights that new files get, in letters. -/
def maskText (mask : Nat) : String :=
  "u=" ++ rightsText mask 64 ++ ",g=" ++ rightsText mask 8 ++ ",o="
    ++ rightsText mask 1

/-- The rights that new files do not get, in four digits. -/
def maskDigits (mask : Nat) : String :=
  let ds := Nat.toDigits 8 mask
  String.ofList (List.replicate (4 - ds.length) '0' ++ ds)

/-- The bits of all kinds of users that letters name. -/
def usersOf (cs : List Char) : Nat :=
  if cs.isEmpty || cs.contains 'a' then 511
  else
    (if cs.contains 'u' then 448 else 0) + (if cs.contains 'g' then 56 else 0)
      + (if cs.contains 'o' then 7 else 0)

/-- The bits of rights, for all kinds of users, that letters name; those of a
    kind of users, if it names one. -/
def rightsOf (rights : Nat) (cs : List Char) : Nat :=
  let of (c : Char) : Nat :=
    match c with
    | 'r' => 4
    | 'w' => 2
    | 'x' | 'X' => 1
    | 'u' => rights / 64 % 8
    | 'g' => rights / 8 % 8
    | 'o' => rights % 8
    | _ => 0
  let bits := cs.foldl (fun n c => n.lor (of c)) 0
  bits * 73

/-- What is wrong with a text that should change rights. -/
inductive RightsFault where
  /-- An operator was expected. -/
  | operator (c : Char)
  /-- A letter is none of rights. -/
  | letter (c : Char)
  deriving DecidableEq, Repr

/-- Rights changed by operators behind letters of users; the extended family
    takes only one of them, and fewer letters.  Fuel bounds their number. -/
def changeRights (d : Dialect) (users : Nat) : Nat → Nat → List Char →
    Except RightsFault (Nat × List Char)
  | 0, rights, cs => .ok (rights, cs)
  | fuel + 1, rights, cs =>
      match cs with
      | op :: rest =>
          if op = '+' || op = '-' || op = '=' then
            let known := if d = .plain then "rwxXsugo" else "rwx"
            let letters := rest.takeWhile known.toList.contains
            let bits := (rightsOf rights letters).land users
            let rights :=
              if op = '+' then rights.lor bits
              else if op = '-' then rights - rights.land bits
              else (rights - rights.land users).lor bits
            match rest.drop letters.length with
            | [] => .ok (rights, [])
            | ',' :: more => .ok (rights, ',' :: more)
            | c :: more =>
                if d = .plain && (c = '+' || c = '-' || c = '=') then
                  changeRights d users fuel rights (c :: more)
                else .error (.letter c)
          else .error (.operator op)
      | [] => .error (.operator (Char.ofNat 0))

/-- Rights changed by the clauses of a text; fuel bounds their number. -/
def changedRights (d : Dialect) :
    Nat → Nat → List Char → Except RightsFault Nat
  | 0, rights, _ => .ok rights
  | fuel + 1, rights, cs => do
      let who := cs.takeWhile (fun c => "ugoa".toList.contains c)
      let (rights, rest) ←
        changeRights d (usersOf who) (cs.length + 1) rights
          (cs.drop who.length)
      match rest with
      | ',' :: more => changedRights d fuel rights more
      | _ => .ok rights

/-- Set the rights that new files do not get, or show them. -/
def umask (args : List String) : Work Nat := do
  let s ← liftM session
  let extended := s.dialect = .extended
  let (options, args) ← readOptions "umask" (if extended then "pS" else "S")
    args
  let put (mask : Nat) : Work Nat := do
    liftM (change (fun s => { s with mask := mask }))
    if extended && has options 'S' then print "umask" (maskText mask ++ "\n")
    else return 0
  match args with
  | [] =>
      let shown := if has options 'S' then maskText s.mask
        else maskDigits s.mask
      let before :=
        if has options 'p' then
          "umask " ++ (if has options 'S' then "-S " else "")
        else ""
      print "umask" (before ++ shown ++ "\n")
  | arg :: _ =>
      let cs := arg.toList
      if cs.head?.any Char.isDigit then
        if cs.all isOctal && octalValue cs < 4096 then
          put (octalValue cs % 512)
        else
          match s.dialect with
          | .plain => refuse ("umask: Illegal number: " ++ arg) 2
          | .extended =>
              refuse ("umask: " ++ arg ++ ": octal number out of range") 1
      else if cs.isEmpty && !extended then return 0
      else
        match changedRights s.dialect (cs.length + 1) (511 - s.mask) cs with
        | .ok rights => put (511 - rights)
        | .error e =>
            match s.dialect, e with
            | .plain, _ => refuse ("umask: Illegal mode: " ++ arg) 2
            | .extended, .operator c =>
                refuse ("umask: \x60" ++ String.singleton c
                  ++ "': invalid symbolic mode operator") 1
            | .extended, .letter c =>
                refuse ("umask: \x60" ++ String.singleton c
                  ++ "': invalid symbolic mode character") 1

/-! ## ulimit and times -/

/-- The letters of limits. -/
def limitLetters : Dialect → String
  | .plain => "tfdscmlpnvwr"
  | .extended => "bcdefiklmnpqrstuvxPRT"

/-- A limit that has not been set. -/
def usualLimit (letter : Char) : String :=
  match letter with
  | 'n' => "1048576"
  | 's' => "8192"
  | 'p' => "8"
  | 'e' | 'r' => "0"
  | _ => "unlimited"

/-- Set a limit, or show it. -/
def ulimit (args : List String) : Work Nat := do
  let s ← liftM session
  let extended := s.dialect = .extended
  let letters := limitLetters s.dialect
  let (options, args) ← readOptions "ulimit" ("HSa" ++ letters) args
  let letter :=
    (((options.map (·.1)).filter (fun c =>
      letters.toList.contains c)).getLast?).getD 'f'
  let value (c : Char) : String := (s.limits.lookup c).getD (usualLimit c)
  match args with
  | [] =>
      if has options 'a' then return 0
      else print "ulimit" (value letter ++ "\n")
  | arg :: _ =>
      if isNumber arg || arg = "unlimited"
          || (extended && (arg = "hard" || arg = "soft")) then
        liftM (change (fun s =>
          { s with limits := (letter, arg) :: s.limits }))
        return 0
      else
        match s.dialect with
        | .plain => refuse "ulimit: bad number" 2
        | .extended => refuse ("ulimit: " ++ arg ++ ": invalid number") 1

/-- Tell how much time has been used. -/
def times (_ : List String) : Work Nat := do
  let zero :=
    match ← liftM dialect with
    | .plain => "0m0.000000s"
    | .extended => "0m0.000s"
  let line := zero ++ " " ++ zero ++ "\n"
  print "times" (line ++ line)

end Builtin
end NodeFlow.Shell
