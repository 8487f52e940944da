import NodeFlow.Shell.Expand
import NodeFlow.Shell.Paths

/-! # Redirections

    A redirection lets a stream of the shell lead somewhere else for the time
    of a command: to a file, to a text in the snippet, or to where another
    stream leads.  After the command the streams that were redirected lead
    where they led before; others may have changed for good. -/

namespace NodeFlow.Shell

namespace Redirection

/-- How a file is opened. -/
inductive Mode where
  /-- To be written from its beginning; when `forced`, in any case. -/
  | write (forced : Bool)
  /-- To be written behind its end. -/
  | append
  /-- To be read. -/
  | read
  /-- To be read and written. -/
  | both
  deriving DecidableEq, Repr

/-- Whether a file is read only. -/
def Mode.onlyReads (m : Mode) : Bool := m = .read

/-- Where streams led before they were redirected. -/
abbrev Kept : Type := List (Nat × Option Nat)

/-- A redirection that may fail; what is said of it has been said then. -/
abbrev Attempt : Type → Type := OptionT Act

/-! ## Files -/

/-- The channel of a file that there is. -/
def openFile (way : FileTree.Way) (m : Mode) : Act Nat := do
  let content := fileContent (← world).files way
  match m with
  | .write _ =>
      changeWorld (fun w => { w with files := setContent w.files way [] })
      newChannel (.file way 0 false true false)
  | .append => newChannel (.file way content.length false true true)
  | .read => newChannel (.file way 0 true false false)
  | .both => newChannel (.file way 0 true true false)

/-- A path without slashes at its end. -/
def bare (path : String) : String :=
  String.ofList (path.toList.reverse.dropWhile (fun c => c = '/')).reverse

/-- Open what a path leads to.  A file that is written has no slash behind its
    name. -/
def openPath (path : String) (m : Mode) : Act (Except FileFault Nat) := do
  let guarded := m = .write false && (← hasHabit "noclobber")
  let named := !m.onlyReads && path.endsWith "/" && !(bare path).isEmpty
  let spot ← spotOf (if named then bare path else path)
  match if named then asDirectory spot else spot with
  | .void | .program _ => return .ok (← newChannel .void)
  | .full =>
      return .ok (← newChannel (if m.onlyReads then .void else .full))
  | .stream n =>
      match (← session).streams.lookup n with
      | some c => return .ok c
      | none => return .error .notFound
  | .directory way =>
      if m.onlyReads then
        return .ok (← newChannel (.file way 0 true false false))
      else return .error .isDirectory
  | .elsewhere _ =>
      if m.onlyReads then return .ok (← newChannel .void)
      else return .error .isDirectory
  | .file way =>
      if guarded then return .error .alreadyExists
      else return .ok (← openFile way m)
  | .vacant way =>
      if m.onlyReads then return .error .notFound
      else
        changeWorld (fun w => { w with files := setContent w.files way [] })
        return .ok (← openFile way m)
  | .nowhere e => return .error e
where
  /-- What a path leads to that can only name a directory. -/
  asDirectory : Spot → Spot
    | .nowhere e => .nowhere e
    | _ => .nowhere .isDirectory

/-- What is said of a path that cannot be opened. -/
def complaint (d : Dialect) (path : String) (m : Mode) (e : FileFault) :
    String :=
  match d, m.onlyReads, e with
  | .plain, true, .notFound | .plain, true, .notDirectory =>
      "cannot open " ++ path ++ ": No such file"
  | .plain, true, e => "cannot open " ++ path ++ ": " ++ Paths.reason e
  | .plain, false, .notFound | .plain, false, .notDirectory =>
      "cannot create " ++ path ++ ": Directory nonexistent"
  | .plain, false, e => "cannot create " ++ path ++ ": " ++ Paths.reason e
  | .extended, _, .alreadyExists =>
      path ++ ": cannot overwrite existing file"
  | .extended, _, e => path ++ ": " ++ Paths.reason e

/-- Open what a path leads to, or say why that cannot be. -/
def openOrSay (path : String) (m : Mode) : Attempt Nat := do
  match ← liftM (openPath path m) with
  | .ok n => return n
  | .error e =>
      let d ← liftM dialect
      liftM (protest (complaint d path m e))
      failure

/-! ## Words -/

/-- Complain about a word that does not say where a stream leads. -/
def ambiguous {α : Type} (w : Word) : Attempt α := do
  liftM (protest (w.source ++ ": ambiguous redirect"))
  failure

variable (r : Runner)

/-- The path that a word names. -/
def pathOf (w : Word) : Attempt String := do
  match ← liftM dialect with
  | .plain => liftM (Expand.oneField r w)
  | .extended =>
      match ← liftM (Expand.fieldsOf r w) with
      | [path] => return path
      | _ => ambiguous w

/-- Open the file that a word names.  The streams that the shell has opened to
    find the name are closed again. -/
def openWord (w : Word) (m : Mode) : Attempt Nat := do
  let before := (← liftM session).streams
  let path ← pathOf r w
  let n ← openOrSay path m
  liftM (change (fun s => { s with streams := before }))
  return n

/-- A channel from which a text can be read. -/
def textChannel (text : String) : Act Nat := newChannel (.source text.toList)

/-- Where streams lead that are to lead where a word says: which streams these
    are in the end, and their channel, unless they are closed. -/
def copied (w : Word) (output : Bool) (streams : List Nat) :
    Attempt (List Nat × Option Nat) := do
  let s ← liftM session
  let text ←
    match s.dialect with
    | .plain => liftM (Expand.oneField r w)
    | .extended =>
        match ← liftM (Expand.fieldsOf r w) with
        | [text] => pure text
        | _ => ambiguous w
  let cs := text.toList
  let digits := cs.takeWhile Char.isDigit
  let known (n : Nat) : Attempt Nat := do
    match s.streams.lookup n with
    | some c => return c
    | none =>
        let shown := if isNumber w.source then w.source else
          match s.dialect with
          | .plain => toString n
          | .extended => w.source
        liftM (protest (shown ++ ": Bad file descriptor"))
        failure
  match s.dialect, digits, cs.drop digits.length with
  | _, [], ['-'] => return (streams, none)
  | .plain, [_], [] => return (streams, some (← known (decimalValue digits)))
  | .plain, _, _ =>
      let gives : Act (List Nat × Option Nat) :=
        fault "Syntax error: Bad fd number"
      liftM gives
  | .extended, _ :: _, [] =>
      return (streams, some (← known (decimalValue digits)))
  | .extended, _ :: _, ['-'] =>
      let n := decimalValue digits
      let c ← known n
      liftM (closeStream n)
      return (streams, some c)
  | .extended, _, _ =>
      if output && streams = [1] then
        return ([1, 2], some (← openOrSay text (.write false)))
      else ambiguous w

/-- A stream that leads nowhere, for a redirection that names its stream
    itself. -/
def freeStream (s : Session) : Nat :=
  ((List.range 256).find? (fun n =>
    10 ≤ n && (s.streams.lookup n).isNone)).getD 10

/-- Let streams lead to a channel, or nowhere; answers where they led. -/
def leadAll (streams : List Nat) (channel : Option Nat) : Act Kept := do
  let s ← session
  for n in streams do
    match channel with
    | some c => lead n c
    | none => closeStream n
  return streams.map (fun n => (n, s.streams.lookup n))

/-- Expand a text.  When that is given up in the plain family, nothing but the
    redirection is. -/
def asAttempt {α : Type} (act : Act α) : Attempt α := do
  let d ← liftM dialect
  let result ← liftM (tryCatch (do return some (← act)) (fun flow =>
    if d = .plain && flow = .abandons then pure none else throw flow))
  match result with
  | some v => return v
  | none => failure

/-- A part of a text below a command, where the plain family sees all arguments
    as one text, and the extended one never does. -/
def ofArguments (d : Dialect) : Part → Part
  | .param (.sign c) false change source =>
      let all := if c = '@' || c = '*' then
        (match d with
          | .plain => '*'
          | .extended => '@')
        else c
      .param (.sign all) false change source
  | p => p

/-- An atom of a text below a command, where the extended family puts spaces
    between several values. -/
def spaced : Atom → Atom
  | .boundary _ parts => .boundary (some ' ') parts
  | atom => atom

/-- Carry out a redirection; answers where streams led before that have to
    lead there again. -/
def carryOut : Redirect → Attempt Kept
  | .mk stream name target => do
      match name with
      | none => direct (stream.toList) target
      | some name => do
          let s ← liftM session
          match target with
          | .copy w _ =>
              if w.source = "-" then
                let n := decimalValue ((s.text? name).getD "0").toList
                liftM (closeStream n)
                return []
              else bind s name target
          | target => bind s name target
where
  /-- Redirect a stream. -/
  direct (given : List Nat) (target : Target) : Attempt Kept := do
    let or (usual : Nat) : List Nat := if given.isEmpty then [usual] else given
    let leading (streams : List Nat) (channel : Attempt Nat) : Attempt Kept := do
      let c ← channel
      liftM (leadAll streams (some c))
    match target with
    | .write w forced => leading (or 1) (openWord r w (.write forced))
    | .append w => leading (or 1) (openWord r w .append)
    | .read w => leading (or 0) (openWord r w .read)
    | .both w => leading (or 0) (openWord r w .both)
    | .all w atEnd =>
        leading [1, 2] (openWord r w (if atEnd then .append else .write false))
    | .text parts _ _ _ =>
        leading (or 0) (do
          let d ← liftM dialect
          let parts := parts.map (ofArguments d)
          let atoms ← asAttempt
            (Expand.parts r Expand.deepestPart .quoted parts)
          let atoms := if d = .extended then atoms.map spaced else atoms
          liftM (textChannel (Atom.joined atoms)))
    | .line w =>
        leading (or 0) (do
          let text ← liftM (Expand.oneField r w)
          liftM (textChannel (text ++ "\n")))
    | .copy w output =>
        let (streams, c) ← copied r w output (or (if output then 1 else 0))
        liftM (leadAll streams c)
  /-- Redirect a stream that gets a number of its own, for good. -/
  bind (s : Session) (name : String) (target : Target) : Attempt Kept := do
    let n := freeStream s
    let _ ← direct [n] target
    liftM (assignText name false (toString n))
    return []

/-- Carry out redirections one after the other, as far as they can be; answers
    where streams led before, and whether all of them were carried out. -/
def carryOutAll : List Redirect → Act (Kept × Bool)
  | [] => return ([], true)
  | redirect :: rest => do
      match ← (carryOut r redirect).run with
      | none => return ([], false)
      | some kept =>
          let (more, done) ← carryOutAll rest
          return (more ++ kept, done)

/-- Let streams lead where they led before. -/
def putBack (kept : Kept) : Act Unit := do
  for (n, c) in kept do
    match c with
    | some c => lead n c
    | none => closeStream n

/-- Carry out redirections, do something, and let the streams lead where they
    led before; when the redirections cannot be carried out, do something
    else. -/
def during (rs : List Redirect) (failed act : Act Unit) : Act Unit := do
  if rs.isEmpty then act
  else
    let before := (← session).streams
    let asBefore : Act Unit := change (fun s => { s with streams := before })
    let (kept, done) ←
      tryCatch (carryOutAll r rs) (fun flow => do
        asBefore
        throw flow)
    if done then
      tryCatch act (fun flow => do
        putBack kept
        throw flow)
      putBack kept
    else
      asBefore
      failed

/-- Carry out redirections and do something as a program does it that has been
    started for that: what they change in the shell is as it was afterwards,
    and the shell goes on when they have to be given up, after something
    else. -/
def duringProgram (rs : List Redirect) (failed act : Act Unit) :
    Act Unit := do
  if rs.isEmpty then act
  else
    let before ← session
    let (kept, status) ←
      tryCatch
        (do
          let (kept, done) ← carryOutAll r rs
          return (kept, if done then none else some 1))
        (fun flow =>
          match flow with
          | .abandons => return ([], some 1)
          | .ends n => return ([], some n)
          | flow => throw flow)
    match status with
    | none =>
        tryCatch act (fun flow => do
          putBack kept
          throw flow)
        putBack kept
    | some n =>
        change (fun s =>
          { s with streams := before.streams, speaker := before.speaker })
        setStatus n
        failed
    change (fun s => { s with store := before.store })

end Redirection
end NodeFlow.Shell
