import NodeFlow.Shell.Call

/-! # Simple commands

    A simple command gives parameters values, lets streams lead elsewhere, and
    calls something by its name.  The families differ in the order of these,
    in what they show of it, and in what follows when one of them cannot be
    done.  How a command is run is a parameter here. -/

namespace NodeFlow.Shell

namespace Simple

variable (run : Command → Act Unit)

/-! ## Assignments -/

/-- The entries that the items of a list write.  For a table, every word is one
    of them. -/
def entries (r : Runner) (keyed : Bool) : List Item → Act (List Entry)
  | [] => return []
  | .mk (some index) adds w :: rest => do
      let key ← Expand.text r Expand.deepestPart index.parts
      let text ← Expand.value r w
      return .placed key adds text :: (← entries r keyed rest)
  | .mk none _ w :: rest => do
      let here ←
        if keyed then pure [← Expand.value r w] else Expand.fieldsOf r w
      return here.map .next ++ (← entries r keyed rest)

/-- An assignment as the extended family shows it. -/
def shown (a : Assignment) (text : String) : Act String := do
  let e := (← session).encoding
  match a with
  | .mk name index adds w =>
      let place :=
        match index with
        | some i => "[" ++ i.source ++ "]"
        | none => ""
      let text :=
        match w.parts with
        | [.list _ source] => source
        | _ => if text.isEmpty then "" else Quote.traced e text
      return name ++ place ++ (if adds then "+=" else "=") ++ text

/-- Give a parameter the value that an assignment says; tells whether there can
    be such an assignment. -/
def assign (r : Runner) (a : Assignment) : Act Bool := do
  let trace (text : String) : Act Unit := do
    if ← isExtended then r.trace (shown a text)
  match a with
  | .mk name index adds w =>
      match w.parts, index with
      | [.list items _], none =>
          trace ""
          let v ← variableOf name
          assignList name adds (← entries r v.content.isTable items)
          return true
      | [.list _ _], some i =>
          fault (name ++ "[" ++ i.source
            ++ "]: cannot assign list to array member")
      | _, none =>
          let text ← Expand.value r w
          trace text
          assignText name adds text
          return true
      | _, some i =>
          let text ← Expand.value r w
          trace text
          let key ← Expand.text r Expand.deepestPart i.parts
          assignItem name key adds text
          return true

/-- Carry out assignments; tells whether there can be such assignments. -/
def assignAll (r : Runner) : List Assignment → Act Bool
  | [] => return true
  | a :: rest => do
      let done ← assign r a
      return (← assignAll r rest) && done

/-- What parameters held before they got values for the time of a command, the
    last first. -/
abbrev Kept : Type := List (String × Option Variable)

/-- Give a parameter a value for the time of a command. -/
def lend (r : Runner) (a : Assignment) : Act Kept := do
  match a with
  | .mk name index adds w =>
      let target ← resolve name
      let old := (← session).store.get? target
      match ← dialect, index with
      | .plain, _ =>
          let _ ← assign r a
          let v ← variableOf name
          putVariable target { v with exported := true }
          return [(target, old)]
      | .extended, some i =>
          protest ("\x60" ++ name ++ "[" ++ i.source
            ++ "]': not a valid identifier")
          return []
      | .extended, none =>
          let text ← Expand.value r w
          if (old.map Variable.fixed).getD false then
            protest (name ++ ": readonly variable")
            return []
          else
            let before :=
              if adds then ((old.bind (·.content.text?)).getD "") else ""
            let v := Variable.ofText (before ++ text) true
            putVariable target { v with lent := true }
            afterChange target
            r.trace (shown a text)
            return [(target, old)]

/-- Give parameters values for the time of a command. -/
def lendAll (r : Runner) : List Assignment → Kept → Act Kept
  | [], kept => return kept
  | a :: rest, kept => do lendAll r rest ((← lend r a) ++ kept)

/-! ## Arguments -/

/-- The argument that an assignment among the words of a command writes. -/
def assignmentArgument (r : Runner) (keyed : Bool) (w : Word) :
    Act Argument := do
  match w.parts with
  | [.plain start, .list items _] =>
      let (name, after) := nameAhead start.toList
      let v ← variableOf name
      let all ← entries r (keyed || v.content.isTable) items
      return .list name (after.head? = some '+') all
  | ps =>
      match Expand.valueStart? ps with
      | some (start, rest) =>
          let atoms ← Expand.atoms r .all rest
          return .text (String.ofList start ++ Atom.joined atoms)
      | none => return .text (← Expand.text r Expand.deepestPart ps)

/-- The arguments that words write.  Where they `may` be assignments, an
    assignment is one argument. -/
def argumentsFrom (r : Runner) (may keyed : Bool) :
    List Word → Act (List Argument)
  | [] => return []
  | w :: rest => do
      let here ←
        if may && Reader.atAssignment (← dialect) w.source.toList then do
          pure [← assignmentArgument r keyed w]
        else do
          pure ((← Expand.fieldsOf r w).map .text)
      let keyed := keyed
        || (w.source.startsWith "-" && w.source.toList.contains 'A')
      return here ++ (← argumentsFrom r may keyed rest)

/-- The name of a command and its arguments.  Whether these may be assignments
    hangs on the name; the plain family looks for it behind `command`. -/
def arguments (r : Runner) : List Word → Act (List Argument)
  | [] => return []
  | w :: rest => do
      let d ← dialect
      let here ← Expand.fieldsOf r w
      let declares (name : String) : Bool :=
        (Builtin.declaring d).contains name
      match d, here with
      | .extended, here =>
          let may := declares w.source
          return here.map .text ++ (← argumentsFrom r may false rest)
      | .plain, [] | .plain, ["command"] =>
          return here.map .text ++ (← arguments r rest)
      | .plain, name :: _ =>
          return here.map .text
            ++ (← argumentsFrom r (declares name) false rest)

/-! ## What is shown of a command -/

/-- A list that a parameter gets, as the extended family shows it. -/
def listText (name : String) (adds : Bool) (all : List Entry) : String :=
  let sign (adds : Bool) : String := if adds then "+=" else "="
  let entry : Entry → String
    | .next t => Quote.single t
    | .placed key adds t =>
        "[" ++ Quote.single key ++ "]" ++ sign adds ++ Quote.single t
  name ++ sign adds ++ "(" ++ " ".intercalate (all.map entry) ++ ")"

/-- Show a command of the extended family, if the shell traces what it
    does. -/
def traceArguments (r : Runner) (args : List Argument) : Act Unit := do
  if ← hasHabit "xtrace" then
    let e := (← session).encoding
    for arg in args do
      match arg with
      | .list name adds all => r.trace (pure (listText name adds all))
      | .text _ => pure ()
    let word : Argument → String
      | .text t => Quote.traced e t
      | .list name _ _ => name
    r.trace (pure (" ".intercalate (args.map word)))
    match args with
    | .text command :: rest =>
        if command = "export" || command = "readonly" then
          for arg in rest do
            match arg with
            | .text t =>
                match Builtin.written t with
                | { name, value := some v, .. } =>
                    if isName name then
                      r.trace (pure (name ++ "=" ++ Quote.traced e v))
                | _ => pure ()
            | .list _ _ _ => pure ()
    | _ => return ()

/-- Show a command of the plain family, if the shell traces what it does, where
    streams lead that it has not redirected. -/
def tracePlain (r : Runner) (outer : Call.Streams)
    (assignments : List Assignment) (args : List Argument) : Act Unit := do
  if ← hasHabit "xtrace" then
    let line := " ".intercalate
      (← assignments.mapM (fun a => do
        match a with
        | .mk name _ _ _ =>
            return name ++ "=" ++ ((← textOf? name).getD "")))
    let words := " ".intercalate (Call.texts args)
    let both :=
      if assignments.isEmpty then words
      else if args.isEmpty then line
      else line ++ " " ++ words
    Call.speaking outer (r.trace (pure both))

/-! ## Redirections -/

/-- Whether a command lets a program take the place of the shell, or only
    redirects its streams. -/
def isExec : List Argument → Bool
  | .text "exec" :: _ => true
  | .text "command" :: rest | .text "builtin" :: rest => isExec rest
  | _ => false

/-- Do something with redirections; they stay after a success if `stays`. -/
def redirected (r : Runner) (stays : Bool) (rs : List Redirect)
    (failed act : Act Unit) : Act Unit := do
  if stays && !rs.isEmpty then
    let before := (← session).streams
    let (kept, done) ← Redirection.carryOutAll r rs
    if done then
      act
      unless (← session).status = 0 do Redirection.putBack kept
    else
      change (fun s => { s with streams := before })
      failed
  else Redirection.during r rs failed act

/-- Do something after words have been expanded, and close the streams that
    have been opened for that. -/
def closing (before : Call.Streams) (act : Act Unit) : Act Unit := do
  let opened := (← session).streams.filter (fun e =>
    (before.lookup e.1).isNone)
  if opened.isEmpty then act
  else
    act
    change (fun s =>
      { s with
        streams := s.streams.filter (fun e => !opened.contains e) })

/-! ## Commands -/

/-- Do something as if parameters had not got their values. -/
def unlent (kept : Kept) (act : Act Unit) : Act Unit := do
  let s ← session
  let values := kept.map (fun (name, _) => (name, s.store.get? name))
  restoreVariables kept
  act
  restoreVariables values

/-- Do something for which parameters have got values. -/
def lent (kept : Kept) (act : Act Unit) : Act Unit := do
  if kept.isEmpty then act
  else
    let before := (← session).lent
    change (fun s => { s with lent := kept :: before })
    let back : Act Unit := do
      match (← session).lent with
      | left :: outer =>
          restoreVariables left
          change (fun s => { s with lent := outer })
      | [] =>
          restoreVariables kept
          change (fun s => { s with lent := before })
    tryCatch act (fun flow => do
      back
      throw flow)
    back

/-- Take back the values that parameters have got, and answer how to do
    something for which they have got them; those that `stays` names last
    longer. -/
def lentLater (still : Kept → Kept) (kept : Kept) (act : Act Unit) :
    Act (Act Unit) := do
  if kept.isEmpty then return act
  else
    let valuesNow : Act Kept := do
      let s ← session
      return kept.map (fun (name, _) => (name, s.store.get? name))
    let values ← valuesNow
    restoreVariables kept
    return (do
      let before ← valuesNow
      restoreVariables values
      lent (still before) act)

/-- The status of a command that calls nothing. -/
def statusOfWords : Act Nat := do return ((← session).wordStatus.getD 0)

/-- Run a command of the plain family. -/
def plainCommand (last : Bool) (assignments : List Assignment)
    (words : List Word) (rs : List Redirect) : Act Unit := do
  let r := Apart.runner run
  let outer := (← session).streams
  match ← arguments r words with
  | [] =>
      redirected r false rs (setStatus 2) (do
        let _ ← assignAll r assignments
        tracePlain r outer assignments []
        setStatus (← statusOfWords))
  | command :: args =>
      let all := command :: args
      let name := (Call.texts [command]).headD ""
      let special := Builtin.special.contains name
      let failed : Act Unit := do
        setStatus 2
        if special then throw .abandons
      redirected r (isExec all) rs failed (do
        let kept ←
          if special then do
            let _ ← assignAll r assignments
            pure []
          else lendAll r assignments []
        tracePlain r outer assignments all
        lent kept (Call.byName run special last outer name args))

/-- The values that a command has not made to last. -/
def lentStill (args : List Argument) (kept : Kept) : Kept :=
  match args with
  | .text command :: rest =>
      if command = "export" || command = "readonly" then
        let names := (Call.texts rest).map (fun t => (Builtin.written t).name)
        kept.filter (fun e => !names.contains e.1)
      else kept
  | _ => kept

/-- Run a command of the extended family. -/
def extendedCommand (last : Bool) (assignments : List Assignment)
    (words : List Word) (rs : List Redirect) : Act Unit := do
  let r := Apart.runner run
  let outer := (← session).streams
  let expanded ← arguments r words
  let s ← session
  if s.counts then
    change (fun s => { s with counted := s.counted + 1, counts := false })
  match expanded with
  | [] =>
      let done ← assignAll r assignments
      closing outer (redirected r false rs (setStatus 1) (do
        let status ← statusOfWords
        setStatus (if done then status else 1)))
      change (fun s => { s with lastArgument := "" })
  | command :: args =>
      let all := command :: args
      let name := (Call.texts [command]).headD ""
      let kept ← lendAll r assignments []
      unlent kept (traceArguments r all)
      let call ← lentLater (lentStill all) kept
        (Call.byName run false last outer name args)
      closing outer (do
        match ← Names.meaningOf false name with
        | .function _ | .builtin =>
            redirected r (isExec all) rs (setStatus 1) call
        | _ => Redirection.duringProgram r rs (pure ()) call)
      let lastArgument := (Call.texts all).getLastD ""
      change (fun s => { s with lastArgument := lastArgument })

/-- Tell of a command of the extended family before it is run. -/
def announce (line : Nat) (c : Command) : Act Unit := do
  change (fun s =>
    { s with
      line := line + s.above
      current := if s.trapped.isEmpty then some c else s.current })
  Event.before run

/-- Run a simple command; `last` tells whether nothing comes after it. -/
def command (last : Bool) (line : Nat) (assignments : List Assignment)
    (words : List Word) (rs : List Redirect) : Act Unit := do
  match ← dialect with
  | .plain =>
      change (fun s => { s with line := line, wordStatus := none })
      plainCommand run last assignments words rs
  | .extended =>
      announce run line (.simple line assignments words rs)
      change (fun s => { s with wordStatus := none })
      extendedCommand run last assignments words rs
      change (fun s => { s with statuses := [s.status] })

end Simple
end NodeFlow.Shell
