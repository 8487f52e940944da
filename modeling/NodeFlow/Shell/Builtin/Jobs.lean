import NodeFlow.Shell.Apart
import NodeFlow.Shell.Builtin.Names

/-! # Commands on what nothing waits for

    `wait` waits for commands that the shell has begun without waiting for
    them, by their numbers or places.  There is no control over them beyond
    that, so the commands for it complain. -/

namespace NodeFlow.Shell

namespace Builtin

/-- The numbers of the commands that the shell has begun and that it has not
    waited for, by their places. -/
def jobPlaces : Act (List Nat) := do
  return ((← world).waiting.map (·.1))

/-- The number of the command that a text names by its place. -/
def jobOf? (text : String) : Act (Option Nat) := do
  let all ← jobPlaces
  match text.toList with
  | '%' :: cs =>
      if cs.isEmpty || cs = ['%'] || cs = ['+'] then return all.getLast?
      else if cs = ['-'] then return all.dropLast.getLast?
      else if cs.all Char.isDigit then
        let n := decimalValue cs
        return if n = 0 then none else all[n - 1]?
      else return none
  | _ => return none

section

variable (run : Command → Act Unit)

/-- Wait for everything that the shell has begun. -/
def waitForAll : Act Unit := Apart.catchUpOn run (fun _ => true)

/-- Wait for the command of a number; how it has ended, if there is one. -/
def waitFor (number : Nat) : Act (Option Exit) := do
  Apart.catchUpOn run (fun e => e.1 == number)
  return (← world).ended.lookup number

/-- Wait for the commands that texts name; the status of the last one. -/
def waitForEach (status : Nat) : List String → Work Nat
  | [] => return status
  | arg :: rest => do
      let d ← liftM dialect
      let named := arg.startsWith "%"
      let number ←
        if named then liftM (jobOf? arg)
        else
          pure (if isNumber arg then some (decimalValue arg.toList) else none)
      match number, d with
      | some number, _ =>
          match ← liftM (waitFor run number), d with
          | some exit, d =>
              match exit, d with
              | .killed n, .plain => liftM (Apart.sayDeath n)
              | _, _ => pure ()
              waitForEach exit.code rest
          | none, .plain => waitForEach 127 rest
          | none, .extended =>
              liftM (complain
                ("wait: pid " ++ arg ++ " is not a child of this shell"))
              waitForEach 127 rest
      | none, .plain =>
          if named then refuse ("wait: No such job: " ++ arg) 2
          else refuse ("wait: Illegal number: " ++ arg) 2
      | none, .extended =>
          if named then
            liftM (complain ("wait: " ++ arg ++ ": no such job"))
            waitForEach 127 rest
          else
            liftM (complain
              ("wait: \x60" ++ arg ++ "': not a pid or valid job spec"))
            waitForEach 1 rest

/-- Wait for commands. -/
def wait (args : List String) : Work Nat := do
  let extended ← liftM isExtended
  let (options, ids) ←
    readOptions "wait" (if extended then "fnp:" else "") args
  let note (number : Option Nat) : Work Unit := do
    match argumentOf? options 'p', number with
    | some name, some n => liftM (setText name (toString n))
    | some name, none => liftM (forget name)
    | none, _ => return ()
  if has options 'n' then
    match ids, (← liftM jobPlaces) with
    | [], first :: _ =>
        let exit ← liftM (waitFor run first)
        note (some first)
        return (exit.map Exit.code).getD 127
    | [], [] => return 127
    | ids, _ => waitForEach run 127 (ids.take 1)
  else if ids.isEmpty then
    liftM (waitForAll run)
    return 0
  else
    let status ← waitForEach run 0 ids
    note ((ids.getLast?).map (fun t => decimalValue t.toList))
    return status

end

/-! ## Commands that need more control -/

/-- Show what the shell has begun. -/
def jobs (args : List String) : Work Nat := do
  let s ← liftM session
  let extended := s.dialect = .extended
  let (options, ids) ←
    readOptions "jobs" (if extended then "lnprsx" else "lp") args
  let all := (← liftM world).waiting
  match ids with
  | [] =>
      let line (i : Nat) (e : Nat × Command × Session) : String :=
        let sign :=
          if i + 1 = all.length then "+"
          else if i + 2 = all.length then "-" else " "
        if has options 'p' then toString e.1 ++ "\n"
        else
          let place := "[" ++ toString (i + 1) ++ "]"
          match s.dialect with
          | .plain => place ++ " " ++ sign ++ " " ++ column "Running" 27 ++ "\n"
          | .extended =>
              place ++ sign ++ "  " ++ column "Running" 24
                ++ Listing.single e.2.1 ++ " &\n"
      print "jobs" (String.join (all.zipIdx.map (fun (e, i) => line i e)))
  | id :: _ =>
      match ← liftM (jobOf? id), s.dialect with
      | some _, _ => return 0
      | none, .plain => refuse ("jobs: No such job: " ++ id) 2
      | none, .extended => refuse ("jobs: " ++ id ++ ": no such job") 1
where
  /-- A text with blanks behind it. -/
  column (text : String) (width : Nat) : String :=
    text ++ String.ofList (List.replicate (width - text.length) ' ')

/-- Go on with something that has been halted, which cannot be. -/
def resume (command : String) (args : List String) : Work Nat := do
  match ← liftM dialect with
  | .plain =>
      let (_, ids) ← readOptions command "" args
      match ids with
      | [] => refuse (command ++ ": No current job") 2
      | id :: _ => refuse (command ++ ": No such job: " ++ id) 2
  | .extended =>
      if ← liftM (hasHabit "monitor") then
        let id := args.headD "current"
        refuse (command ++ ": " ++ id ++ ": no such job") 1
      else refuse (command ++ ": no job control") 1

/-- Do not wait for what the shell has begun. -/
def disown (args : List String) : Work Nat := do
  let (options, ids) ← readOptions "disown" "ahr" args
  let known ← liftM jobPlaces
  match ids with
  | [] =>
      if has options 'a' || has options 'r' || !known.isEmpty then return 0
      else refuse "disown: current: no such job" 1
  | ids =>
      let mut status := 0
      for id in ids do
        let found ←
          if isNumber id then
            pure (known.contains (decimalValue id.toList))
          else pure (← liftM (jobOf? id)).isSome
        if !found then
          liftM (complain ("disown: " ++ id ++ ": no such job"))
          status := 1
      return status

/-! ## Commands for people -/

/-- Tell about commands. -/
def help (args : List String) : Work Nat := do
  let (options, topics) ← readOptions "help" "dms" args
  let mut status := 0
  for topic in topics do
    match usages.lookup topic with
    | some usage =>
        if has options 's' then
          let _ ← print "help" (topic ++ ": " ++ usage ++ "\n")
    | none =>
        if !extendedNames.contains topic then
          liftM (complain ("help: no help topics match \x60" ++ topic
            ++ "'.  Try \x60help help' or \x60man -k " ++ topic
            ++ "' or \x60info " ++ topic ++ "'."))
          status := 1
  return status

/-- Show what could complete a word. -/
def compgen (args : List String) : Work Nat := do
  let (options, words) ←
    readOptions "compgen" "abcdefgjksuvo:A:G:W:F:C:X:P:S:" args
  let s ← liftM session
  let start := words.headD ""
  let given :=
    match argumentOf? options 'W' with
    | some text => (text.splitOn " ").filter (fun w => !w.isEmpty)
    | none => []
  let kind (c : Char) (name : String) : Bool :=
    has options c || argumentOf? options 'A' = some name
  let all :=
    given
      ++ (if kind 'a' "alias" then s.aliases.keys else [])
      ++ (if kind 'k' "keyword" then Names.keywords .extended else [])
      ++ (if argumentOf? options 'A' = some "function" then s.functions.keys
        else [])
      ++ (if kind 'b' "builtin" then extendedNames else [])
      ++ (if kind 'v' "variable" then s.store.keys else [])
  let fit := all.filter (fun w => w.startsWith start)
  if fit.isEmpty then return 1
  else
    let before := (argumentOf? options 'P').getD ""
    let after := (argumentOf? options 'S').getD ""
    print "compgen" (String.join (fit.map (fun w =>
      before ++ w ++ after ++ "\n")))

/-- The other commands that are for people who type. -/
def forPeople (command : String) (args : List String) : Work Nat := do
  match command with
  | "suspend" => refuse "suspend: cannot suspend: no job control" 1
  | "logout" => refuse "logout: not login shell: use \x60exit'" 1
  | "history" =>
      let _ ← readOptions command "cd:anrwps" args
      return 0
  | "fc" =>
      let _ ← readOptions command "e:lnrs0123456789" args
      return 0
  | "bind" =>
      liftM (complain "bind: warning: line editing not enabled")
      return 0
  | "compopt" =>
      refuse "compopt: not currently executing completion function" 1
  | _ => return 0

end Builtin
end NodeFlow.Shell
