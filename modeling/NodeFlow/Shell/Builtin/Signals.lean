import NodeFlow.Shell.Builtin.Values

/-! # Commands on signals

    A shell may be told what to do when it gets a signal or when something
    else happens.  It sends signals to shells by their numbers. -/

namespace NodeFlow.Shell

/-! ## Signals -/

namespace Signal

/-- The names of the signals up to 31, from the first one on. -/
def names : List String :=
  ["HUP", "INT", "QUIT", "ILL", "TRAP", "ABRT", "BUS", "FPE", "KILL", "USR1",
    "SEGV", "USR2", "PIPE", "ALRM", "TERM", "STKFLT", "CHLD", "CONT", "STOP",
    "TSTP", "TTIN", "TTOU", "URG", "XCPU", "XFSZ", "VTALRM", "PROF", "WINCH",
    "IO", "PWR", "SYS"]

/-- The number of the last signal. -/
def last : Nat := 64

/-- The name of a signal. -/
def name? (n : Nat) : Option String :=
  if n = 0 || last < n then none
  else if n ≤ 31 then names[n - 1]?
  else if n < 34 then none
  else if n = 34 then some "RTMIN"
  else if n < 50 then some ("RTMIN+" ++ toString (n - 34))
  else if n < 64 then some ("RTMAX-" ++ toString (64 - n))
  else some "RTMAX"

/-- The name of a signal in a family; the plain one has none for one of
    them. -/
def shown (d : Dialect) (n : Nat) : String :=
  if n = 0 then "EXIT"
  else
    match d, name? n with
    | .plain, some "STKFLT" => "16"
    | .plain, some s => s
    | .extended, some s => "SIG" ++ s
    | _, none => toString n

/-- The further events of the extended family. -/
def events : List String := ["DEBUG", "ERR", "RETURN"]

/-- The number of a signal by its name. -/
def ofName? (d : Dialect) (name : String) : Option Nat :=
  let all := (List.range (last + 1)).filter (fun n => 0 < n)
  let up := name.toUpper
  let bare :=
    match d, up.toList with
    | .extended, 'S' :: 'I' :: 'G' :: rest => String.ofList rest
    | _, _ => up
  if bare = "EXIT" then some 0
  else all.find? (fun n =>
    name? n = some bare && !(d = .plain && n = 16))

/-- The number of a signal by its name or its number. -/
def of? (d : Dialect) (text : String) : Option Nat :=
  if isNumber text then
    let n := decimalValue text.toList
    if n ≤ last then some n else none
  else ofName? d text

/-- The name under which a shell remembers what to do. -/
def event? (d : Dialect) (text : String) : Option String :=
  match of? d text with
  | some n => some (if n = 0 then "EXIT" else (name? n).getD (toString n))
  | none =>
      let up := text.toUpper
      if d = .extended && events.contains up then some up else none

/-- The number of what a name stands for, by which lists are in order. -/
def order (event : String) : Nat :=
  if event = "EXIT" then 0
  else
    match (List.range (last + 1)).find? (fun n => name? n = some event) with
    | some n => n
    | none => last + 1 + (events.findIdx (fun e => e == event))

/-- The signals that do nothing to a shell that has not been told what to do
    about them. -/
def isHarmless (n : Nat) : Bool := [17, 18, 23, 28].contains n

/-- The signals that halt a shell. -/
def halts (n : Nat) : Bool := [19, 20, 21, 22].contains n

/-- What is said of a program that a signal has ended, if anything is. -/
def text? (n : Nat) : Option String :=
  match n with
  | 1 => some "Hangup"
  | 3 => some "Quit"
  | 4 => some "Illegal instruction"
  | 5 => some "Trace/breakpoint trap"
  | 6 => some "Aborted"
  | 7 => some "Bus error"
  | 8 => some "Floating point exception"
  | 9 => some "Killed"
  | 10 => some "User defined signal 1"
  | 11 => some "Segmentation fault"
  | 12 => some "User defined signal 2"
  | 14 => some "Alarm clock"
  | 15 => some "Terminated"
  | 16 => some "Stack fault"
  | 24 => some "CPU time limit exceeded"
  | 25 => some "File size limit exceeded"
  | 26 => some "Virtual timer expired"
  | 27 => some "Profiling timer expired"
  | 29 => some "I/O possible"
  | 30 => some "Power failure"
  | 31 => some "Bad system call"
  | n => if 34 ≤ n then some ("Real-time signal " ++ toString (n - 34)) else none

/-- The signals before whose effect the extended family does what it has been
    told to do at its end. -/
def endsInOrder (n : Nat) : Bool :=
  [1, 2, 4, 5, 6, 7, 8, 10, 11, 12, 13, 14, 15, 24, 25, 26, 31].contains n

/-- Whether a signal does nothing to a shell of a family that has not been
    told what to do about it. -/
def isIgnored (d : Dialect) (n : Nat) : Bool :=
  isHarmless n || (d = .extended && n = 3)

/-- The signals about which nothing can be done. -/
def isFinal (n : Nat) : Bool := n = 9 || n = 19

end Signal

/-- What the shell has been told to do in an event. -/
def Session.trap? (s : Session) (event : String) : Option String :=
  s.traps.lookup event

/-- What the shell does when it gets a signal, if that is not the usual
    thing. -/
def Session.answer? (s : Session) (n : Nat) : Option String :=
  let name := (Signal.name? n).getD (toString n)
  if Signal.isFinal n then none
  else if s.deaf.contains name || s.calm.contains name then some ""
  else s.trap? name

/-- Get a signal. -/
def receive (n : Nat) : Act Unit := do
  let s ← session
  let told := s.answer? n
  match told with
  | some "" => return ()
  | some _ =>
      changeWorld (fun w => { w with signals := w.signals ++ [(s.number, n)] })
  | none =>
      if Signal.isIgnored s.dialect n then return ()
      else if Signal.halts n then throw .endless
      else throw (.killed n)

/-- Send a signal to the shell of a number; tells whether there is one. -/
def send (number n : Nat) : Act Bool := do
  let s ← session
  let w ← world
  if number = s.number then
    if 0 < n then receive n
    return true
  else if number = s.firstNumber || s.around.contains number then
    if 0 < n then
      changeWorld (fun w => { w with signals := w.signals ++ [(number, n)] })
    return true
  else
    match w.waiting.find? (fun e => e.1 == number) with
    | some (_, _, other) =>
        let ignored := other.answer? n = some ""
        if 0 < n && !ignored && !Signal.isHarmless n then
          changeWorld (fun w =>
            { w with
              waiting := w.waiting.filter (fun e => e.1 != number)
              ended := (number, .killed n) :: w.ended })
        return true
    | none => return false

namespace Builtin

/-! ## trap -/

/-- A line that tells what to do in an event. -/
def trapLine (s : Session) (event action : String) : String :=
  let name :=
    match s.dialect, Signal.order event with
    | d, n => if n ≤ Signal.last then Signal.shown d n else event
  let quoted :=
    match s.dialect with
    | .plain => Quote.plainSingle action
    | .extended =>
        if action.isEmpty then "''" else Quote.single action
  "trap -- " ++ quoted ++ " " ++ name ++ "\n"

/-- The lines that tell what to do in events. -/
def trapLines (s : Session) (wanted : String → Bool) : String :=
  let calm := (s.calm.filter (fun name =>
    name = "INT" && (s.trap? name).isNone)).map (fun name => (name, ""))
  let all := (s.formerTraps ++ s.traps ++ calm).mergeSort
    (fun a b => decide (Signal.order a.1 ≤ Signal.order b.1))
  String.join ((all.filter (fun e => wanted e.1)).map (fun e =>
    trapLine s e.1 e.2))

/-- The list of all signals. -/
def signalList : String :=
  let numbers := (List.range (Signal.last + 1)).filter (fun n =>
    (Signal.name? n).isSome)
  let cell (i n : Nat) : String :=
    let number := toString n
    let padded := (if number.length = 1 then " " else "") ++ number
    let text := padded ++ ") " ++ Signal.shown .extended n
    text ++ (if i % 5 = 4 then "\n" else "\t")
  let text := String.join (numbers.zipIdx.map (fun (n, i) => cell i n))
  if numbers.length % 5 = 0 then text else text ++ "\n"

/-- Say what to do in an event, or do the usual thing again.  The extended
    family does not for a signal that did nothing before its start. -/
def putTrap (action : Option String) (event : String) : Act Unit :=
  change (fun s =>
    let rest := s.traps.filter (fun e => e.1 != event)
    if s.dialect = .extended && s.deaf.contains event then s
    else
      { s with
        calm := s.calm.filter (fun name => name != event)
        formerTraps := []
        traps :=
          match action with
          | some a => (event, a) :: rest
          | none => rest })

/-- Say what to do in events. -/
def putTraps (action : Option String) : List String → Work Nat
  | [] => return 0
  | text :: rest => do
      let d ← liftM dialect
      match Signal.event? d text, d with
      | some event, _ =>
          liftM (putTrap action event)
          putTraps action rest
      | none, .plain =>
          liftM (sayLine ("trap: " ++ text ++ ": bad trap"))
          return 1
      | none, .extended =>
          liftM (complain
            ("trap: " ++ text ++ ": invalid signal specification"))
          return max 1 (← putTraps action rest)

/-- Show what to do in events. -/
def showTraps : List String → Work Nat
  | [] => return 0
  | text :: rest => do
      let s ← liftM session
      let first ←
        match Signal.event? s.dialect text with
        | some event => print "trap" (trapLines s (fun e => e == event))
        | none => do
            liftM (complain
              ("trap: " ++ text ++ ": invalid signal specification"))
            pure 1
      return max first (← showTraps rest)

/-- Say what to do in events, or show it. -/
def trap (args : List String) : Work Nat := do
  let s ← liftM session
  let extended := s.dialect = .extended
  let (options, args) ←
    readOptions "trap" (if extended then "lp" else "") args
  if has options 'l' then print "trap" signalList
  else if has options 'p' && !args.isEmpty then showTraps args
  else
    match args with
    | [] => print "trap" (trapLines s (fun _ => true))
    | first :: rest =>
        let action := if first = "-" then none else some first
        match s.dialect with
        | .plain =>
            if rest.isEmpty || isNumber first then putTraps none args
            else putTraps action rest
        | .extended =>
            let names := (Signal.event? .extended first).isSome
            if (isNumber first && names) || (names && rest.isEmpty) then
              putTraps none args
            else if rest.isEmpty then misuse "trap"
            else putTraps action rest

/-! ## kill -/

/-- Complain about a signal that there is not. -/
def badSignal {α : Type} (text : String) : Work α :=
  refuse ("kill: " ++ text ++ ": invalid signal specification") 1

/-- Send a signal to the shells of numbers. -/
def killAll (n : Nat) : List String → Work Nat
  | [] => return 0
  | arg :: rest => do
      let s ← liftM session
      let job := arg.startsWith "%"
      let number :=
        if job then s.lastAside
        else (number? arg).bind (fun i => if 0 < i then some i.toNat else none)
      let own := (number? arg).any (fun i => i ≤ 0)
      let first ←
        match s.dialect, number with
        | _, some number => do
            if ← liftM (send number n) then pure 0
            else
              match s.dialect with
              | .plain => do
                  liftM (complain "kill: No such process\n")
                  pure 1
              | .extended => do
                  liftM (complain ("kill: (" ++ arg ++ ") - No such process"))
                  pure 1
        | .plain, none =>
            if own then do
              let _ ← liftM (send s.number n)
              pure 0
            else if job then refuse ("kill: No such job: " ++ arg) 2
            else refuse ("kill: Illegal number: " ++ arg) 2
        | .extended, none => do
            if own then do
              let _ ← liftM (send s.number n)
              pure 0
            else
              liftM (complain ("kill: " ++ arg ++ (if job then ": no such job"
                else ": arguments must be process or job IDs")))
              pure 1
      return max first (← killAll n rest)

/-- Show signals by their numbers or names, in the extended family. -/
def listSignals : List String → Work Nat
  | [] => return 0
  | arg :: rest => do
      let first ←
        if isNumber arg then
          let n := decimalValue arg.toList
          let n := if 128 < n then n - 128 else n
          match Signal.name? n with
          | some name => print "kill" (name ++ "\n")
          | none =>
              if n = 0 then print "kill" "EXIT\n"
              else do
                liftM (complain
                  ("kill: " ++ arg ++ ": invalid signal specification"))
                pure 1
        else
          match Signal.ofName? .extended arg with
          | some n => print "kill" (toString n ++ "\n")
          | none => do
              liftM (complain
                ("kill: " ++ arg ++ ": invalid signal specification"))
              pure 1
      return max first (← listSignals rest)

/-- Send a signal, in the extended family. -/
def killExtended (signal : Nat) (told : Bool) :
    Nat → List String → Work Nat
  | 0, _ => misuse "kill"
  | fuel + 1, args => do
      match args with
      | [] => misuse "kill"
      | "--" :: rest =>
          if rest.isEmpty then misuse "kill" else killAll signal rest
      | "-l" :: rest | "-L" :: rest =>
          if rest.isEmpty then print "kill" signalList else listSignals rest
      | "-s" :: rest | "-n" :: rest =>
          match rest with
          | [] =>
              refuse ("kill: " ++ args.headD "" ++
                ": option requires an argument") 1
          | name :: rest =>
              match Signal.of? .extended name with
              | some n => killExtended n true fuel rest
              | none => badSignal name
      | arg :: rest =>
          match arg.toList with
          | '-' :: c :: name =>
              if told then killAll signal args
              else
                let name := String.ofList (c :: name)
                match Signal.of? .extended name with
                | some n => killExtended n true fuel rest
                | none => badSignal name
          | _ => killAll signal args

/-- How the plain family says to use the command. -/
def killUsage {α : Type} : Work α :=
  refuse ("kill: Usage: kill [-s sigspec | -signum | -sigspec] [pid | job]... "
    ++ "or\nkill -l [exitstatus]") 2

/-- Send a signal, in the plain family. -/
def killPlain (args : List String) : Work Nat := do
  let withSignal (text : String) (rest : List String)
      (bad : Work Nat) : Work Nat := do
    match Signal.of? .plain text with
    | some n =>
        let rest := if rest.head? = some "--" then rest.tail else rest
        if rest.isEmpty then killUsage else killAll n rest
    | none => bad
  match args with
  | [] => killUsage
  | "-l" :: [] =>
      let names := (List.range (Signal.last + 1)).map (fun n =>
        if n = 0 then "0" else Signal.shown .plain n)
      print "kill" (String.join (names.map (· ++ "\n")))
  | "-l" :: arg :: _ =>
      let n ← plainNumber "kill" arg
      let n := if 128 < n then n - 128 else n
      if 0 < n && n ≤ Signal.last then
        print "kill" (Signal.shown .plain n ++ "\n")
      else
        refuse ("kill: invalid signal number or exit status: " ++ arg) 2
  | "-s" :: [] => refuse "kill: No arg for -s option" 2
  | "-s" :: name :: rest =>
      withSignal name rest
        (refuse ("kill: invalid signal number or name: " ++ name) 2)
  | "--" :: rest => if rest.isEmpty then killUsage else killAll 15 rest
  | arg :: rest =>
      match arg.toList with
      | '-' :: c :: name =>
          withSignal (String.ofList (c :: name)) rest
            (refuse ("kill: Illegal option -" ++ String.singleton c) 2)
      | _ => killAll 15 args

/-- Send a signal. -/
def kill (args : List String) : Work Nat := do
  match ← liftM dialect with
  | .plain => killPlain args
  | .extended => killExtended 15 false (args.length + 1) args

end Builtin
end NodeFlow.Shell
