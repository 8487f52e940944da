import NodeFlow.Shell.Builtin.Habits
import NodeFlow.Shell.Builtin.Names
import NodeFlow.Shell.Builtin.Signals
import NodeFlow.Shell.Snippet

/-! # Starting a shell

    A shell is started under a name with arguments and an environment.  The
    arguments give it habits and say where its snippet is: in an argument, in
    a file, or in what it can read.  Some arguments make no sense; then it
    complains and ends. -/

namespace NodeFlow.Shell

/-- Where the snippet of a shell is. -/
inductive Origin where
  /-- In an argument, and in its input after that, if it has been told so. -/
  | argument (code : String) (goesOn : Bool)
  /-- In a file. -/
  | file (path : String)
  /-- In its input. -/
  | input
  /-- Nowhere: it prints something, complains, and ends with a status. -/
  | nowhere (printed complaint : String) (status : Nat)
  deriving Repr, Inhabited

namespace Start

/-- What the arguments of a shell have told it so far. -/
structure Told where
  /-- The letters that say where its snippet is. -/
  letters : List Char := []
  /-- Its habits. -/
  habits : List String := []
  /-- Its features. -/
  features : List String := []
  /-- The arguments that are left. -/
  args : List String := []
  /-- What it prints. -/
  printed : String := ""
  deriving Inhabited

/-- A shell that cannot be started: its complaint and its status. -/
abbrev Refusal : Type := String × Nat

/-- The long options of the extended family that take an argument. -/
def longWithArgument : List String := ["rcfile", "init-file"]

/-- The long options of the extended family. -/
def longOptions : List String :=
  ["debug", "debugger", "dump-po-strings", "dump-strings", "help",
    "init-file", "login", "noediting", "noprofile", "norc", "posix",
    "pretty-print", "rcfile", "restricted", "verbose", "version"]

/-- How a shell of the extended family is to be started. -/
def usage (name : String) : String :=
  "Usage:\t" ++ name ++ " [GNU long option] [option] ...\n\t" ++ name
    ++ " [GNU long option] [option] script-file ...\nGNU long options:\n"
    ++ String.join (longOptions.map (fun o => "\t--" ++ o ++ "\n"))
    ++ "Shell options:\n\t-ilrsD or -c command or -O shopt_option\t\t"
    ++ "(invocation only)\n\t-abefhkmnptuvxBCEHPT or -o option\n"

/-- Take a habit on or give it up. -/
def Told.with (t : Told) (name : String) (on : Bool) : Told :=
  { t with habits := Builtin.withName name on t.habits }

/-- Read long options. -/
def readLong (name : String) : Nat → Told → Except Refusal Told
  | 0, t => .ok t
  | fuel + 1, t =>
      match t.args with
      | [] => .ok t
      | arg :: rest =>
          match arg.toList with
          | '-' :: more =>
              let dashes := more.head? = some '-'
              let option :=
                String.ofList (if dashes then more.tail else more)
              if longWithArgument.contains option then
                match rest with
                | [] =>
                    .error (name ++ ": " ++ option
                      ++ ": option requires an argument\n", 2)
                | _ :: rest => readLong name fuel { t with args := rest }
              else if longOptions.contains option then
                let t := { t with args := rest }
                readLong name fuel
                  (if option = "posix" || option = "verbose" then
                    t.with option true
                  else t)
              else if dashes && !option.isEmpty then
                .error (name ++ ": " ++ arg ++ ": invalid option\n"
                  ++ usage name, 2)
              else .ok t
          | _ => .ok t

/-- The letters of the extended family that are no habits. -/
def plainLetters : List Char := ['c', 'l', 's', 'i', 'r', 'D']

/-- Take in the letters of an argument; `sign` stands before them. -/
def readLetters (d : Dialect) (name : String) (sign : Char) :
    List Char → Told → Except Refusal Told
  | [], t => .ok t
  | c :: rest, t =>
      let on := sign = '-'
      let said := String.ofList [sign, c]
      let known :=
        match d with
        | .plain => c = 'c' || c = 'l' || c = 's'
        | .extended => plainLetters.contains c
      if known then
        readLetters d name sign rest { t with letters := c :: t.letters }
      else if c = 'o' then
        match t.args with
        | [] =>
            let s : Session :=
              { dialect := d, name := name, habits := t.habits }
            readLetters d name sign rest
              { t with printed := t.printed ++ Builtin.habitLines s (!on) }
        | option :: args =>
            if Builtin.isHabit d option then
              readLetters d name sign rest
                ({ t with args := args }.with option on)
            else
              match d with
              | .plain =>
                  .error (name ++ ": 0: Illegal option " ++ said ++ " "
                    ++ option ++ "\n", 2)
              | .extended =>
                  .error (name ++ ": line 0: " ++ name ++ ": " ++ option
                    ++ ": invalid option name\n", 2)
      else if c = 'O' && d = .extended then
        match t.args with
        | [] =>
            let line (e : String × Bool) : String :=
              let has := t.features.contains e.1
              let command := "shopt " ++ (if has then "-s " else "-u ")
              Builtin.featureLine (if on then none else some command) e.1 has
            readLetters d name sign rest
              { t with
                printed :=
                  t.printed ++ String.join (Builtin.features.map line) }
        | feature :: args =>
            if Builtin.features.any (fun e => e.1 == feature) then
              readLetters d name sign rest
                { t with
                  args := args
                  features := Builtin.withName feature on t.features }
            else
              .error (name ++ ": line 0: " ++ feature
                ++ ": invalid shell option name\n", 2)
      else
        match Builtin.habitOf? d c with
        | some habit => readLetters d name sign rest (t.with habit on)
        | none =>
            match d with
            | .plain =>
                .error (name ++ ": 0: Illegal option " ++ said ++ "\n", 2)
            | .extended =>
                .error (name ++ ": " ++ said ++ ": invalid option\n"
                  ++ usage name, 2)

/-- Take in the options of a shell. -/
def readOptions (d : Dialect) (name : String) :
    Nat → Told → Except Refusal Told
  | 0, t => .ok t
  | fuel + 1, t =>
      match t.args with
      | [] => .ok t
      | arg :: rest =>
          let t' := { t with args := rest }
          match arg.toList with
          | ['-'] | ['-', '-'] => .ok t'
          | '-' :: letters => do
              readOptions d name fuel (← readLetters d name '-' letters t')
          | '+' :: letters => do
              readOptions d name fuel (← readLetters d name '+' letters t')
          | _ => .ok t

/-- What the arguments of a shell tell it. -/
def told (d : Dialect) (name : String) (args : List String) :
    Except Refusal Told := do
  let usual (all : List (String × Bool)) : List String :=
    (all.filter (fun e => e.2)).map (·.1)
  match d with
  | .plain => readOptions d name (args.length + 1) { args := args }
  | .extended =>
      let t : Told :=
        { args := args
          habits := ["braceexpand", "hashall", "interactive-comments"]
          features := usual Builtin.features }
      readOptions d name (args.length + 1)
        (← readLong name (args.length + 1) t)

/-- A shell after what its arguments have told it, and where its snippet
    is. -/
def withArguments (s : Session) (args : List String) : Session × Origin :=
  match told s.dialect s.name args with
  | .error (complaint, status) => (s, .nowhere "" complaint status)
  | .ok t =>
      let has (c : Char) : Bool := t.letters.contains c
      let s := { s with habits := t.habits, features := t.features }
      let marked (c : Char) (s : Session) : Session :=
        { s with letters := s.letters ++ String.singleton c }
      let reads := has 's' || (t.args.isEmpty && !has 'c')
      let s := if reads then marked 's' s else s
      let s := if has 'c' then marked 'c' s else s
      if !t.printed.isEmpty && t.args.isEmpty then
        (s, .nowhere t.printed "" 0)
      else if has 'c' then
        match t.args with
        | [] =>
            let complaint :=
              match s.dialect with
              | .plain => ": 0: -c requires an argument\n"
              | .extended => ": -c: option requires an argument\n"
            (s, .nowhere "" (s.name ++ complaint) 2)
        | code :: rest =>
            let goesOn := has 's' && s.dialect = .plain
            ({ s with
                name := rest.headD s.name, args := rest.tail
                source := Snippet.argument, lost := 127 },
              .argument code goesOn)
      else if reads then ({ s with args := t.args, source := s.name }, .input)
      else
        match t.args with
        | [] => (s, .input)
        | path :: args => ({ s with args := args }, .file path)

/-! ## The environment -/

/-- The level of shells inside one another after the one before. -/
def nextLevel (text : String) : Nat :=
  match Builtin.number? text with
  | none => 1
  | some n => if n + 1 < 0 || 1000 ≤ n + 1 then (if n < 0 then 0 else 1)
    else (n + 1).toNat

/-- The parameters that a shell of a family has from the start. -/
def ownVariables (d : Dialect) (parent : Nat) : List (String × Variable) :=
  let text (s : String) : Variable := .ofText s false
  let whole (s : String) : Variable := { text s with whole := true }
  match d with
  | .plain =>
      [("IFS", text usualSeparators), ("OPTIND", text "1"),
        ("PPID", text (toString parent)), ("PS1", text "# "),
        ("PS2", text "> "), ("PS4", text "+ ")]
  | .extended =>
      [("BASH", text "/usr/bin/bash"),
        ("BASH_VERSINFO",
          { content := .ofTexts ["5", "2", "21", "1", "release",
              "x86_64-pc-linux-gnu"]
            fixed := true }),
        ("BASH_VERSION", text "5.2.21(1)-release"),
        ("EUID", { whole "0" with fixed := true }),
        ("HOSTTYPE", text "x86_64"), ("IFS", text usualSeparators),
        ("MACHTYPE", text "x86_64-pc-linux-gnu"), ("OPTERR", text "1"),
        ("OPTIND", whole "1"), ("OSTYPE", text "linux-gnu"),
        ("PPID", { whole (toString parent) with fixed := true }),
        ("PS4", text "+ "), ("SHELL", text "/bin/bash"),
        ("TERM", text "dumb"), ("UID", { whole "0" with fixed := true })]

/-- The parameters whose values a shell does not take over. -/
def notTakenOver : Dialect → List String
  | .plain => ["IFS", "OPTIND", "PPID"]
  | .extended =>
      ["IFS", "OPTIND", "PPID", "PS4", "UID", "EUID", "BASH_VERSION",
        "BASH_VERSINFO", "BASH", "SHELLOPTS", "BASHOPTS"]

/-- The parameters of a shell that begins in an environment at a place. -/
def store (d : Dialect) (env : List (String × String)) (parent : Nat)
    (place : String) : Variables :=
  let own : Variables :=
    (ownVariables d parent).foldl (fun t (n, v) => t.insert n v) Table.empty
  let taken := env.filter (fun (n, _) =>
    isName n && !(notTakenOver d).contains n)
  let all := taken.foldl (fun t (n, v) => t.insert n (.ofText v true)) own
  let all :=
    if (all.get? "PATH").isSome then all
    else all.insert "PATH" (.ofText Names.usualPath false)
  let all := all.insert "PWD" (.ofText place true)
  match d with
  | .plain => all
  | .extended =>
      let level := ((all.get? "SHLVL").bind (fun v => v.content.text?)).getD ""
      let all := all.insert "SHLVL" (.ofText (toString (nextLevel level)) true)
      if (all.get? "OLDPWD").isSome then all
      else all.insert "OLDPWD" { exported := true }

/-- The environment that a shell gives to programs. -/
def environment (s : Session) (program : String) :
    List (String × String) :=
  let given := s.store.entries.filterMap (fun (n, v) =>
    if v.exported then
      match v.content with
      | .text t => some (n, t)
      | _ => none
    else none)
  match s.dialect with
  | .plain => given
  | .extended => given.filter (fun e => e.1 != "_") ++ [("_", program)]

/-- A shell that another one has started as a program. -/
def child (s : Session) (number : Nat) (d : Dialect) (name path : String) :
    Session :=
  let both := d = .extended && s.dialect = .extended
  let ignored := s.traps.filter (fun e => e.2.isEmpty && e.1 != "EXIT"
    && !(Signal.events.contains e.1))
  let deaf := s.deaf ++ (ignored.map (·.1)).filter (!s.deaf.contains ·)
  { dialect := d
    name := name
    number := number
    firstNumber := number
    around := s.number :: s.around
    store :=
      store d (environment s path) s.number (Paths.ofLocation s.location)
    functions :=
      if both then s.functions.filter (fun _ f => f.exported) else Table.empty
    traps := if d = .plain then [] else deaf.map (fun name => (name, ""))
    deaf := deaf
    streams := s.streams
    location := s.location
    formerLocation := s.formerLocation
    mask := s.mask
    limits := s.limits
    lastArgument := path }

end Start
end NodeFlow.Shell
