import NodeFlow.Number.Binary64
import NodeFlow.Shell.Paths

/-! # Commands that a shell knows

    Each family of shells knows some commands by itself.  What they have in
    common is how they read options and how they complain: in the plain family
    a command that is used wrongly is given up, in the extended one it ends
    with a status of its own. -/

namespace NodeFlow.Shell

namespace Builtin

/-- What a command of the shell does; it may end early with a status. -/
abbrev Work : Type → Type := ExceptT Nat Act

/-- The commands that the plain family knows. -/
def plainNames : List String :=
  [".", ":", "[", "alias", "bg", "break", "cd", "chdir", "command",
    "continue", "echo", "eval", "exec", "exit", "export", "false", "fg",
    "getopts", "hash", "jobs", "kill", "local", "printf", "pwd", "read",
    "readonly", "return", "set", "shift", "test", "times", "trap", "true",
    "type", "ulimit", "umask", "unalias", "unset", "wait"]

/-- The commands that the extended family knows. -/
def extendedNames : List String :=
  [".", ":", "[", "alias", "bg", "bind", "break", "builtin", "caller", "cd",
    "command", "compgen", "complete", "compopt", "continue", "declare", "dirs",
    "disown", "echo", "enable", "eval", "exec", "exit", "export", "false",
    "fc", "fg", "getopts", "hash", "help", "history", "jobs", "kill", "let",
    "local", "logout", "mapfile", "popd", "printf", "pushd", "pwd", "read",
    "readarray", "readonly", "return", "set", "shift", "shopt", "source",
    "suspend", "test", "times", "trap", "true", "type", "typeset", "ulimit",
    "umask", "unalias", "unset", "wait"]

/-- The commands that a family knows. -/
def names : Dialect → List String
  | .plain => plainNames
  | .extended => extendedNames

/-- The commands that are found before functions in the plain family. -/
def special : List String := specialNames

/-- The commands whose arguments may be assignments. -/
def declaring : Dialect → List String
  | .plain => ["export", "local", "readonly"]
  | .extended => ["declare", "export", "local", "readonly", "typeset"]

/-- How commands are to be used. -/
def usages : List (String × String) :=
  [(".", ". filename [arguments]"),
    ("alias", "alias [-p] [name[=value] ... ]"),
    ("bg", "bg [job_spec ...]"),
    ("break", "break [n]"),
    ("builtin", "builtin [shell-builtin [arg ...]]"),
    ("caller", "caller [expr]"),
    ("cd", "cd [-L|[-P [-e]] [-@]] [dir]"),
    ("command", "command [-pVv] command [arg ...]"),
    ("compgen", "compgen [-abcdefgjksuv] [-o option] [-A action] [-G globpat] "
      ++ "[-W wordlist] [-F function] [-C command] [-X filterpat] [-P prefix] "
      ++ "[-S suffix] [word]"),
    ("continue", "continue [n]"),
    ("declare", "declare [-aAfFgiIlnrtux] [name[=value] ...] or "
      ++ "declare -p [-aAfFilnrtux] [name ...]"),
    ("dirs", "dirs [-clpv] [+N] [-N]"),
    ("disown", "disown [-h] [-ar] [jobspec ... | pid ...]"),
    ("enable", "enable [-a] [-dnps] [-f filename] [name ...]"),
    ("eval", "eval [arg ...]"),
    ("exec",
      "exec [-cl] [-a name] [command [argument ...]] [redirection ...]"),
    ("exit", "exit [n]"),
    ("export", "export [-fn] [name[=value] ...] or export -p"),
    ("fc", "fc [-e ename] [-lnr] [first] [last] or "
      ++ "fc -s [pat=rep] [command]"),
    ("fg", "fg [job_spec]"),
    ("getopts", "getopts optstring name [arg ...]"),
    ("hash", "hash [-lr] [-p pathname] [-dt] [name ...]"),
    ("help", "help [-dms] [pattern ...]"),
    ("history", "history [-c] [-d offset] [n] or "
      ++ "history -anrw [filename] or history -ps arg [arg...]"),
    ("jobs", "jobs [-lnprs] [jobspec ...] or jobs -x command [args]"),
    ("kill", "kill [-s sigspec | -n signum | -sigspec] pid | jobspec ... or "
      ++ "kill -l [sigspec]"),
    ("let", "let arg [arg ...]"),
    ("local", "local [option] name[=value] ..."),
    ("mapfile", "mapfile [-d delim] [-n count] [-O origin] [-s count] [-t] "
      ++ "[-u fd] [-C callback] [-c quantum] [array]"),
    ("popd", "popd [-n] [+N | -N]"),
    ("printf", "printf [-v var] format [arguments]"),
    ("pushd", "pushd [-n] [+N | -N | dir]"),
    ("pwd", "pwd [-LP]"),
    ("read", "read [-ers] [-a array] [-d delim] [-i text] [-n nchars] "
      ++ "[-N nchars] [-p prompt] [-t timeout] [-u fd] [name ...]"),
    ("readarray", "readarray [-d delim] [-n count] [-O origin] [-s count] [-t] "
      ++ "[-u fd] [-C callback] [-c quantum] [array]"),
    ("readonly", "readonly [-aAf] [name[=value] ...] or readonly -p"),
    ("return", "return [n]"),
    ("set", "set [-abefhkmnptuvxBCEHPT] [-o option-name] [--] [-] [arg ...]"),
    ("shift", "shift [n]"),
    ("shopt", "shopt [-pqsu] [-o] [optname ...]"),
    ("source", "source filename [arguments]"),
    ("times", "times"),
    ("trap", "trap [-lp] [[arg] signal_spec ...]"),
    ("type", "type [-afptP] name [name ...]"),
    ("typeset", "typeset [-aAfFgiIlnrtux] name[=value] ... or "
      ++ "typeset -p [-aAfFilnrtux] [name ...]"),
    ("ulimit", "ulimit [-SHabcdefiklmnpqrstuvxPRT] [limit]"),
    ("umask", "umask [-p] [-S] [mode]"),
    ("unalias", "unalias [-a] name [name ...]"),
    ("unset", "unset [-f] [-v] [-n] [name ...]"),
    ("wait", "wait [-fn] [-p var] [id ...]")]

/-! ## Complaints -/

/-- Complain, and give the command up with a status; the plain family has one
    of its own for that. -/
def refuse {α : Type} (text : String) (status : Nat) : Work α := do
  liftM (complain text)
  match ← liftM dialect with
  | .plain =>
      let gives : Act α := giveUp false
      liftM gives
  | .extended => throw status

/-- Say how a command is to be used, and give it up. -/
def misuse {α : Type} (name : String) : Work α := do
  liftM (sayLine (name ++ ": usage: " ++ (usages.lookup name).getD name))
  throw 2

/-- Complain about an option that there is not. -/
def badOption {α : Type} (name : String) (option : String) : Work α := do
  match ← liftM dialect with
  | .plain => refuse (name ++ ": Illegal option " ++ option) 2
  | .extended =>
      liftM (complain (name ++ ": " ++ option ++ ": invalid option"))
      misuse name

/-- Complain about an option without its argument. -/
def bareOption {α : Type} (name : String) (letter : Char) : Work α := do
  let option := String.ofList ['-', letter]
  match ← liftM dialect with
  | .plain => refuse (name ++ ": No arg for " ++ option ++ " option") 2
  | .extended =>
      liftM (complain (name ++ ": " ++ option
        ++ ": option requires an argument"))
      misuse name

/-! ## Options -/

/-- An option with its argument, if it takes one. -/
abbrev Choice : Type := Char × String

/-- Whether a letter is an option, and whether it takes an argument, which a
    colon behind it says. -/
def takes? (known : List Char) (c : Char) : Option Bool :=
  match known with
  | [] => none
  | d :: ':' :: rest => if c = d && c != ':' then some true else takes? rest c
  | d :: rest => if c = d && c != ':' then some false else takes? rest c

/-- The options in the letters of an argument; an option may take the rest of
    them, or the next argument. -/
def lettersOf (name : String) (known : List Char) :
    List Char → List String → Work (List Choice × List String)
  | [], args => return ([], args)
  | c :: rest, args => do
      match takes? known c with
      | none => badOption name (String.ofList ['-', c])
      | some false =>
          let (more, args) ← lettersOf name known rest args
          return ((c, "") :: more, args)
      | some true =>
          match rest, args with
          | [], [] => bareOption name c
          | [], arg :: args => return ([(c, arg)], args)
          | rest, args => return ([(c, String.ofList rest)], args)

/-- The options at the beginning of arguments, and the arguments after
    them. -/
def options (name known : String) :
    Nat → List String → Work (List Choice × List String)
  | 0, args => return ([], args)
  | fuel + 1, args => do
      match args with
      | [] => return ([], [])
      | arg :: rest =>
          match arg.toList with
          | ['-', '-'] => return ([], rest)
          | '-' :: c :: letters =>
              let (here, rest) ←
                lettersOf name known.toList (c :: letters) rest
              let (more, rest) ← options name known fuel rest
              return (here ++ more, rest)
          | _ => return ([], args)

/-- The options at the beginning of arguments. -/
def readOptions (name known : String) (args : List String) :
    Work (List Choice × List String) :=
  options name known (args.length + 1) args

/-- The arguments after those that only end the options. -/
def afterDashes (name : String) (args : List String) : Work (List String) := do
  return (← readOptions name "" args).2

/-- Whether an option was given. -/
def has (options : List Choice) (c : Char) : Bool :=
  options.any (fun o => o.1 == c)

/-- The argument of an option, the last one if it was given more than once. -/
def argumentOf? (options : List Choice) (c : Char) : Option String :=
  ((options.filter (fun o => o.1 == c)).getLast?).map (·.2)

/-! ## Numbers -/

/-- The number that an argument writes, with a sign and white space around
    it. -/
def number? (arg : String) : Option Int :=
  let cs := arg.toList.dropWhile isSpace
  let (negative, ds) :=
    match cs with
    | '-' :: rest => (true, rest)
    | '+' :: rest => (false, rest)
    | cs => (false, cs)
  let digits := ds.takeWhile Char.isDigit
  if digits.isEmpty || !((ds.drop digits.length).all isSpace) then none
  else
    let n : Int := decimalValue digits
    if 2 ^ 63 ≤ n then none else some (if negative then -n else n)

/-- The number that an argument of a command of the plain family writes. -/
def plainNumber (name arg : String) : Work Nat := do
  let n := decimalValue arg.toList
  if isNumber arg && n < 2 ^ 31 then return n
  else refuse (name ++ ": Illegal number: " ++ arg) 2

/-! ## Printing -/

/-- Print to the output.  What cannot be printed is a fault of the command. -/
def print (name text : String) : Work Nat := do
  match ← liftM (printOn 1 text) with
  | none => return 0
  | some fault =>
      match ← liftM dialect with
      | .plain =>
          liftM (complain (name ++ ": " ++ name ++ ": I/O error"))
          return 1
      | .extended =>
          let reason :=
            match fault with
            | .closed => "Bad file descriptor"
            | .full => "No space left on device"
          liftM (complain (name ++ ": write error: " ++ reason))
          return 1

end Builtin
end NodeFlow.Shell
