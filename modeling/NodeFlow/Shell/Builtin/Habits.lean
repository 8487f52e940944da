import NodeFlow.Shell.Builtin.Values

/-! # Commands on habits

    A shell takes on habits by letters or names, and the extended family has
    further features, each with a name. -/

namespace NodeFlow.Shell

namespace Builtin

/-- The habits of the plain family, each with its letter, if it has one. -/
def plainHabits : List (String × Option Char) :=
  [("errexit", some 'e'), ("noglob", some 'f'), ("ignoreeof", some 'I'),
    ("interactive", some 'i'), ("monitor", some 'm'), ("noexec", some 'n'),
    ("stdin", some 's'), ("xtrace", some 'x'), ("verbose", some 'v'),
    ("vi", some 'V'), ("emacs", some 'E'), ("noclobber", some 'C'),
    ("allexport", some 'a'), ("notify", some 'b'), ("nounset", some 'u'),
    ("privileged", some 'p'), ("nolog", none), ("debug", none)]

/-- The habits of the extended family, each with its letter, if it has
    one. -/
def extendedHabits : List (String × Option Char) :=
  [("allexport", some 'a'), ("braceexpand", some 'B'), ("emacs", none),
    ("errexit", some 'e'), ("errtrace", some 'E'), ("functrace", some 'T'),
    ("hashall", some 'h'), ("histexpand", some 'H'), ("history", none),
    ("ignoreeof", none), ("interactive-comments", none),
    ("keyword", some 'k'), ("monitor", some 'm'), ("noclobber", some 'C'),
    ("noexec", some 'n'), ("noglob", some 'f'), ("nolog", none),
    ("notify", some 'b'), ("nounset", some 'u'), ("onecmd", some 't'),
    ("physical", some 'P'), ("pipefail", none), ("posix", none),
    ("privileged", some 'p'), ("verbose", some 'v'), ("vi", none),
    ("xtrace", some 'x')]

/-- The habits of a family. -/
def habitsOf : Dialect → List (String × Option Char)
  | .plain => plainHabits
  | .extended => extendedHabits

/-- The habit of a letter. -/
def habitOf? (d : Dialect) (letter : Char) : Option String :=
  ((habitsOf d).find? (fun e => e.2 == some letter)).map (·.1)

/-- Whether there is a habit of a name. -/
def isHabit (d : Dialect) (name : String) : Bool :=
  (habitsOf d).any (fun e => e.1 == name)

/-- A name among others, or not. -/
def withName (name : String) (on : Bool) (names : List String) :
    List String :=
  let rest := names.filter (fun n => n != name)
  if on then name :: rest else rest

/-- Take on a habit, or give it up. -/
def putHabit (name : String) (on : Bool) : Act Unit :=
  change (fun s => { s with habits := withName name on s.habits })

/-- A name with blanks behind it. -/
def column (width : Nat) (name : String) : String :=
  name ++ String.ofList (List.replicate (width - name.length) ' ')

/-- The lines that tell whether habits are there, for people or as
    commands. -/
def habitLines (s : Session) (asCommands : Bool) : String :=
  let line (name : String) : String :=
    let on := s.habits.contains name
    let word := if on then "on" else "off"
    if asCommands then
      "set " ++ (if on then "-o " else "+o ") ++ name ++ "\n"
    else
      match s.dialect with
      | .plain => column 16 name ++ word ++ "\n"
      | .extended => column 15 name ++ "\t" ++ word ++ "\n"
  let title :=
    if !asCommands && s.dialect = .plain then "Current option settings\n"
    else ""
  title ++ String.join ((habitsOf s.dialect).map (fun e => line e.1))

/-- Complain about a habit that there is not. -/
def noHabit {α : Type} (sign letter : Char) : Work α := do
  let option := String.ofList [sign, letter]
  match ← liftM dialect with
  | .plain => refuse ("set: Illegal option " ++ option) 2
  | .extended =>
      liftM (complain ("set: " ++ option ++ ": invalid option"))
      misuse "set"

/-- Take on habits by the letters of an argument; answers the arguments that
    are left. -/
def setLetters (sign : Char) : List Char → List String → Work (List String)
  | [], args => return args
  | c :: rest, args => do
      let s ← liftM session
      let on := sign = '-'
      if c = 'o' then
        match args with
        | [] =>
            let _ ← print "set" (habitLines s (sign = '+'))
            setLetters sign rest []
        | name :: args =>
            if isHabit s.dialect name then
              liftM (putHabit name on)
              setLetters sign rest args
            else
              match s.dialect with
              | .plain =>
                  refuse ("set: Illegal option " ++ String.ofList [sign, 'o']
                    ++ " " ++ name) 2
              | .extended =>
                  refuse ("set: " ++ name ++ ": invalid option name") 2
      else
        match habitOf? s.dialect c with
        | none => noHabit sign c
        | some name =>
            liftM (putHabit name on)
            setLetters sign rest args

/-- Give the shell other arguments. -/
def putArguments (args : List String) : Work Nat := do
  liftM (change (fun s => { s with args := args }))
  return 0

/-- Take on habits, and get arguments; fuel bounds the number of arguments. -/
def setFrom : Nat → List String → Work Nat
  | 0, _ => return 0
  | fuel + 1, args => do
      match args with
      | [] => return 0
      | arg :: rest =>
          match arg.toList with
          | ['-', '-'] => putArguments rest
          | ['-'] =>
              liftM (putHabit "xtrace" false)
              liftM (putHabit "verbose" false)
              if rest.isEmpty then return 0 else putArguments rest
          | ['+'] =>
              if (← liftM isExtended) then
                if rest.isEmpty then return 0 else putArguments rest
              else setFrom fuel rest
          | '-' :: letters => setFrom fuel (← setLetters '-' letters rest)
          | '+' :: letters => setFrom fuel (← setLetters '+' letters rest)
          | _ => putArguments args

/-- Take on habits and get arguments; without arguments, show all
    variables. -/
def set (args : List String) : Work Nat := do
  match args with
  | [] =>
      let s ← liftM session
      let text ← liftM (listing (Declaration.listed? s.dialect s.encoding))
      let functions :=
        match s.dialect with
        | .plain => ""
        | .extended =>
            String.join (s.functions.entries.map (fun (name, f) =>
              Listing.function name f.body ++ "\n"))
      print "set" (text ++ functions)
  | args => setFrom (args.length + 1) args

/-! ## Features -/

/-- The further features, each with whether it is there from the start. -/
def features : List (String × Bool) :=
  [("autocd", false), ("assoc_expand_once", false), ("cdable_vars", false),
    ("cdspell", false), ("checkhash", false), ("checkjobs", false),
    ("checkwinsize", true), ("cmdhist", true), ("compat31", false),
    ("compat32", false), ("compat40", false), ("compat41", false),
    ("compat42", false), ("compat43", false), ("compat44", false),
    ("complete_fullquote", true), ("direxpand", false), ("dirspell", false),
    ("dotglob", false), ("execfail", false), ("expand_aliases", false),
    ("extdebug", false), ("extglob", false), ("extquote", true),
    ("failglob", false), ("force_fignore", true), ("globasciiranges", true),
    ("globskipdots", true), ("globstar", false), ("gnu_errfmt", false),
    ("histappend", false), ("histreedit", false), ("histverify", false),
    ("hostcomplete", true), ("huponexit", false), ("inherit_errexit", false),
    ("interactive_comments", true), ("lastpipe", false), ("lithist", false),
    ("localvar_inherit", false), ("localvar_unset", false),
    ("login_shell", false), ("mailwarn", false),
    ("no_empty_cmd_completion", false), ("nocaseglob", false),
    ("nocasematch", false), ("noexpand_translation", false),
    ("nullglob", false), ("patsub_replacement", true), ("progcomp", true),
    ("progcomp_alias", false), ("promptvars", true),
    ("restricted_shell", false), ("shift_verbose", false),
    ("sourcepath", true), ("varredir_close", false), ("xpg_echo", false)]

/-- A line that tells whether something is there. -/
def featureLine (command : Option String) (name : String) (on : Bool) :
    String :=
  match command with
  | some c => c ++ name ++ "\n"
  | none => column 15 name ++ "\t" ++ (if on then "on" else "off") ++ "\n"

/-- What is asked about features or habits. -/
structure FeatureQuery where
  /-- Whether it is about habits. -/
  habits : Bool
  /-- Whether nothing is shown. -/
  quiet : Bool
  /-- Whether it is shown as commands. -/
  asCommands : Bool

/-- Whether something is there. -/
def FeatureQuery.isOn (q : FeatureQuery) (s : Session) (name : String) :
    Bool :=
  if q.habits then s.habits.contains name else s.features.contains name

/-- The line of something. -/
def FeatureQuery.line (q : FeatureQuery) (s : Session) (name : String) :
    String :=
  let on := q.isOn s name
  let command :=
    if !q.asCommands then none
    else if q.habits then some (if on then "set -o " else "set +o ")
    else some (if on then "shopt -s " else "shopt -u ")
  featureLine command name on

/-- The names that a query knows. -/
def FeatureQuery.names (q : FeatureQuery) : List String :=
  if q.habits then extendedHabits.map (·.1) else features.map (·.1)

/-- Complain about a feature that there is not. -/
def noFeature (q : FeatureQuery) (name : String) : Act Unit :=
  complain ("shopt: " ++ name ++ ": invalid " ++ (if q.habits then "" else
    "shell ") ++ "option name")

/-- Show features. -/
def showFeatures (q : FeatureQuery) : List String → Work Nat
  | [] => return 0
  | name :: rest => do
      let s ← liftM session
      let first ←
        if !q.names.contains name then do
          liftM (noFeature q name)
          pure 1
        else do
          if !q.quiet then
            let _ ← print "shopt" (q.line s name)
          pure (if q.isOn s name then 0 else 1)
      return max first (← showFeatures q rest)

/-- Take on features, or give them up. -/
def putFeatures (q : FeatureQuery) (on : Bool) : List String → Work Nat
  | [] => return 0
  | name :: rest => do
      let first ←
        if !q.names.contains name then do
          liftM (noFeature q name)
          pure 1
        else do
          if q.habits then liftM (putHabit name on)
          else
            liftM (change (fun s =>
              { s with features := withName name on s.features }))
          pure 0
      return max first (← putFeatures q on rest)

/-- Take on features, give them up, or show them. -/
def shopt (args : List String) : Work Nat := do
  let (options, names) ← readOptions "shopt" "psuoq" args
  let q : FeatureQuery :=
    ⟨has options 'o', has options 'q', has options 'p'⟩
  let on := has options 's'
  let off := has options 'u'
  if on && off then
    refuse "shopt: cannot set and unset shell options simultaneously" 1
  else if names.isEmpty then
    let s ← liftM session
    let shown := q.names.filter (fun n =>
      if on then q.isOn s n else if off then !q.isOn s n else true)
    if q.quiet then return 0
    else print "shopt" (String.join (shown.map (q.line s)))
  else if on || off then putFeatures q on names
  else showFeatures q names

end Builtin
end NodeFlow.Shell
