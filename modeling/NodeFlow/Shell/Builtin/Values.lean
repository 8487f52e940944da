import NodeFlow.Shell.Assign
import NodeFlow.Shell.Builtin.Basic
import NodeFlow.Shell.Declaration
import NodeFlow.Shell.Listing

/-! # Commands on parameters

    These commands give parameters values and traits, take them away, and read
    options from arguments.  Some of them take assignments as arguments, also
    such of whole lists. -/

namespace NodeFlow.Shell

/-- An argument of a command that takes assignments. -/
inductive Argument where
  /-- A text. -/
  | text (s : String)
  /-- All the items of a parameter. -/
  | list (name : String) (adds : Bool) (entries : List Entry)
  deriving DecidableEq, Repr

namespace Builtin

/-- An assignment as an argument writes it. -/
structure Written where
  /-- The name. -/
  name : String
  /-- The place of an item. -/
  key : Option String := none
  /-- Whether the value stands behind the one that is there. -/
  adds : Bool := false
  /-- The value, if there is one. -/
  value : Option String := none
  deriving Inhabited

/-- The parts of an argument. -/
def written (arg : String) : Written :=
  let cs := arg.toList
  let (name, after) := nameAhead cs
  let plain : Written :=
    let left := cs.takeWhile (fun c => c != '=')
    match cs.drop left.length with
    | [] => ⟨arg, none, false, none⟩
    | _ :: value => ⟨String.ofList left, none, false, some (String.ofList value)⟩
  if name.isEmpty then plain
  else
    let (key, after) :=
      match after with
      | '[' :: inside =>
          match Arithmetic.subscript? 0 inside with
          | some (k, rest) => (some (String.ofList k), rest)
          | none => (none, after)
      | after => (none, after)
    match after with
    | [] => ⟨name, key, false, none⟩
    | '=' :: value => ⟨name, key, false, some (String.ofList value)⟩
    | '+' :: '=' :: value => ⟨name, key, true, some (String.ofList value)⟩
    | _ => plain

/-- Complain about a name that is none; `shown` is what was written. -/
def badName (command : String) (shown : String) : Act Unit :=
  complain (command ++ ": \x60" ++ shown ++ "': not a valid identifier")

/-- Complain about a name that is none, in the plain family. -/
def badPlainName {α : Type} (command name : String) : Work α :=
  refuse (command ++ ": " ++ name ++ ": bad variable name") 2

/-- Carry out an assignment. -/
def assign (w : Written) : Act Unit :=
  match w.value with
  | none => return ()
  | some value =>
      match w.key with
      | none => assignText w.name w.adds value
      | some key => assignItem w.name key w.adds value

/-- Change a variable itself. -/
def changeVariable (name : String) (f : Variable → Variable) : Act Unit := do
  let name ← resolve name
  let v := ((← session).store.get? name).getD {}
  putVariable name (f v)

/-- The lines of variables, in order. -/
def listing (line? : String → Variable → Option String) : Act String := do
  let s ← session
  return String.join (s.store.entries.filterMap (fun (name, v) =>
    (line? name v).map (fun t => t ++ "\n")))

/-! ## export and readonly -/

/-- The trait that a command gives. -/
inductive Trait where
  /-- Programs get to know it. -/
  | exported
  /-- It may not change. -/
  | fixed
  deriving DecidableEq, Repr

/-- Give a variable a trait, or take it away. -/
def Trait.give (t : Trait) (on : Bool) (v : Variable) : Variable :=
  match t with
  | .exported => { v with exported := on }
  | .fixed => { v with fixed := on }

/-- Whether a variable has a trait. -/
def Trait.holds (t : Trait) (v : Variable) : Bool :=
  match t with
  | .exported => v.exported
  | .fixed => v.fixed

/-- Show all variables with a trait. -/
def listTrait (command : String) (t : Trait) : Work Nat := do
  let s ← liftM session
  let text ← liftM (listing (fun name v =>
    if !t.holds v then none
    else
      match s.dialect with
      | .plain =>
          some (command ++ " " ++ name ++ (match v.content.text? with
            | some text => "=" ++ Quote.plainSingle text
            | none => ""))
      | .extended => some (Declaration.full s.encoding name v)))
  print command text

/-- Give functions a trait. -/
def giveFunctions (command : String) (t : Trait) (on : Bool) :
    List Argument → Work Nat
  | [] => return 0
  | .list name _ _ :: rest | .text name :: rest => do
      let s ← liftM session
      let first ←
        match s.functions.get? name with
        | some f => do
            let f :=
              match t with
              | .exported => { f with exported := on }
              | .fixed => { f with fixed := on }
            liftM (change (fun s =>
              { s with functions := s.functions.insert name f }))
            pure 0
        | none => do
            liftM (complain (command ++ ": " ++ name ++ ": not a function"))
            pure 1
      return max first (← giveFunctions command t on rest)

/-- Give variables a trait, and some of them values. -/
def giveAll (command : String) (t : Trait) (on : Bool) :
    List Argument → Work Nat
  | [] => return 0
  | .list name adds entries :: rest => do
      let done ← liftM (attempt (assignList name adds entries))
      if done then liftM (changeVariable name (t.give on))
      return max (if done then 0 else 1) (← giveAll command t on rest)
  | .text arg :: rest => do
      let w := written arg
      let extended ← liftM isExtended
      if !isName w.name || (w.adds && !extended) then
        if extended then
          liftM (badName command arg)
          return max 1 (← giveAll command t on rest)
        else badPlainName command w.name
      else
        let done ← liftM (attempt (assign w))
        if done then liftM (changeVariable w.name (t.give on))
        return max (if done then 0 else 1) (← giveAll command t on rest)

/-- The texts of arguments up to the first one that is none. -/
def leadingTexts : List Argument → List String
  | .text s :: rest => s :: leadingTexts rest
  | _ => []

/-- Give variables or functions a trait. -/
def give (command : String) (t : Trait) (args : List Argument) :
    Work Nat := do
  let known :=
    match ← liftM dialect, t with
    | .plain, _ => "p"
    | .extended, .exported => "fnp"
    | .extended, .fixed => "aAfp"
  let texts := leadingTexts args
  let (options, left) ← readOptions command known texts
  let args := args.drop (texts.length - left.length)
  let on := !has options 'n'
  if args.isEmpty && !has options 'f' then listTrait command t
  else if has options 'f' then giveFunctions command t on args
  else
    let status ← giveAll command t on args
    return status

/-! ## declare -/

/-- What is asked of parameters. -/
structure Asked where
  /-- The letters of traits, and whether they are given or taken away. -/
  traits : List (Char × Bool) := []
  deriving Inhabited

/-- Whether a letter is given. -/
def Asked.has (a : Asked) (c : Char) : Bool := a.traits.contains (c, true)

/-- Whether a letter is taken away. -/
def Asked.lacks (a : Asked) (c : Char) : Bool := a.traits.contains (c, false)

/-- Read what is asked of parameters, and the arguments after that. -/
def readAsked (command : String) (asked : Asked) :
    List Argument → Work (Asked × List Argument)
  | [] => return (asked, [])
  | .list n a e :: rest => return (asked, .list n a e :: rest)
  | .text arg :: rest => do
      match arg.toList with
      | ['-', '-'] => return (asked, rest)
      | sign :: c :: letters =>
          if sign != '-' && sign != '+' then
            return (asked, .text arg :: rest)
          else
            let all := c :: letters
            match all.find? (fun c =>
              !("aAcfFgiIlnprtux".toList.contains c)) with
            | some c => badOption command (String.ofList [sign, c])
            | none =>
                let more := all.map (fun c => (c, sign == '-'))
                readAsked command ⟨asked.traits ++ more⟩ rest
      | _ => return (asked, .text arg :: rest)

/-- A variable with the traits that are asked for, except that it may not
    change. -/
def Asked.apply (a : Asked) (v : Variable) : Variable :=
  let choose (c : Char) (old : Bool) : Bool :=
    if a.has c then true else if a.lacks c then false else old
  let content :=
    if a.has 'A' then
      match v.content with
      | .table entries => .table entries
      | .text s => .table [("0", s)]
      | _ => .table []
    else if a.has 'a' then
      match v.content with
      | .table entries => .table entries
      | c => .list c.asItems
    else v.content
  let recase :=
    if a.has 'u' then some Recase.upper
    else if a.has 'l' then some Recase.lower
    else if a.has 'c' then some Recase.other
    else if a.lacks 'u' || a.lacks 'l' || a.lacks 'c' then none
    else v.recase
  { v with
    content := content
    bare := v.bare || (v.content = .nothing && content.isMany)
    whole := choose 'i' v.whole
    exported := choose 'x' v.exported
    refers := choose 'n' v.refers
    recase := recase }

/-- Show variables, or complain about those that there are not. -/
def showAll (command : String) : List Argument → Work Nat
  | [] => return 0
  | .list name _ _ :: rest | .text name :: rest => do
      let s ← liftM session
      let v? :=
        match s.told? name, s.store.get? name with
        | some c, _ => some { content := c }
        | none, v => v
      let first ←
        match v? with
        | some v =>
            print command (Declaration.full s.encoding name v ++ "\n")
        | none => do
            liftM (complain (command ++ ": " ++ name ++ ": not found"))
            pure 1
      return max first (← showAll command rest)

/-- Show functions; only their names, if `short`. -/
def showFunctions (command : String) (short : Bool) :
    List Argument → Work Nat
  | [] => return 0
  | .list name _ _ :: rest | .text name :: rest => do
      let s ← liftM session
      let first ←
        match s.functions.get? name with
        | some f =>
            print command
              (if short then name ++ "\n"
                else Listing.function name f.body ++ "\n")
        | none => pure 1
      return max first (← showFunctions command short rest)

/-- Make a variable belong to the function, if there is one and it does not
    yet. -/
def makeLocal (name : String) : Act Unit := do
  let old := ((← session).store.get? name).getD {}
  if ← keepVariable name then
    putVariable name
      (if old.lent then { old with lent := false }
        else { exported := old.exported })

/-- Declare one parameter. -/
def declareOne (command : String) (asked : Asked) (isLocal : Bool)
    (arg : Argument) : Work Nat := do
  let (name, shown) :=
    match arg with
    | .list name _ _ => (name, name)
    | .text s => ((written s).name, s)
  if !isName name then
    liftM (badName command shown)
    return 1
  else
    let refuseFixed : Work Nat := do
      liftM (complain (command ++ ": " ++ name ++ ": readonly variable"))
      return 1
    let outer := ((← liftM session).store.get? name).getD {}
    if isLocal && outer.fixed
        && !((← liftM session).function?.any (fun f =>
          f.kept.any (fun e => e.1 == name))) then refuseFixed
    else
      if isLocal then liftM (makeLocal name)
      let target ←
        if asked.has 'n' || asked.lacks 'n' then pure name
        else liftM (resolve name)
      let v := ((← liftM session).store.get? target).getD {}
      let given :=
        match arg with
        | .list _ _ _ => true
        | .text s => (written s).value.isSome
      if v.fixed && (given || asked.lacks 'r') then refuseFixed
      else if asked.has 'A' && (match v.content with
          | .list (_ :: _) => true
          | _ => false) then
        liftM (complain (command ++ ": " ++ name
          ++ ": cannot convert indexed to associative array"))
        return 1
      else if asked.has 'a' && v.content.isTable then
        liftM (complain (command ++ ": " ++ name
          ++ ": cannot convert associative to indexed array"))
        return 1
      else
        let v := asked.apply v
        let v :=
          if asked.lacks 'n' then { v with refers := false } else v
        liftM (putVariable target v)
        let done ←
          match arg with
          | .list _ adds entries =>
              liftM (attempt (assignList target adds entries))
          | .text text =>
              let w := written text
              match w.value with
              | none => pure true
              | some value =>
                  if asked.has 'n' then do
                    liftM (putVariable target
                      { v with content := .text value })
                    pure true
                  else do
                    liftM (assign { w with name := target })
                    pure true
        if done then
          if asked.has 'r' then
            liftM (changeVariable target (fun v => { v with fixed := true }))
          return 0
        else return 1

/-- Declare parameters. -/
def declareAll (command : String) (asked : Asked) (isLocal : Bool) :
    List Argument → Work Nat
  | [] => return 0
  | arg :: rest => do
      let first ← declareOne command asked isLocal arg
      return max first (← declareAll command asked isLocal rest)

/-- The variables of the innermost function. -/
def listLocal (command : String) : Work Nat := do
  let s ← liftM session
  let names := ((s.function?.map Frame.kept).getD []).map (·.1)
  let text ← liftM (listing (fun name v =>
    if names.contains name then some (Declaration.full s.encoding name v)
    else none))
  print command text

/-- Declare parameters, or show them. -/
def declare (command : String) (args : List Argument) : Work Nat := do
  let s ← liftM session
  let inside := s.function?.isSome
  if command = "local" && !inside then
    refuse "local: can only be used in a function" 1
  else
    let (asked, args) ← readAsked command {} args
    let isLocal := inside && !asked.has 'g'
    if asked.has 'f' || asked.has 'F' then
      if args.isEmpty then
        let lines := s.functions.entries.map (fun (name, f) =>
          if asked.has 'F' then "declare -f " ++ name ++ "\n"
          else Listing.function name f.body ++ "\n")
        print command (String.join lines)
      else if asked.has 'r' then giveFunctions command .fixed true args
      else if asked.has 'x' then giveFunctions command .exported true args
      else if asked.has 't' || asked.lacks 'f' then return 0
      else showFunctions command (asked.has 'F') args
    else if asked.has 'p' && !args.isEmpty then showAll command args
    else if !args.isEmpty then declareAll command asked isLocal args
    else if command = "local" then listLocal command
    else if asked.traits.isEmpty then
      let text ← liftM (listing (Declaration.listed? s.dialect s.encoding))
      print command text
    else
      let wanted := asked.traits.map (·.1)
      let text ← liftM (listing (fun name v =>
        let letters := v.letters.toList
        if wanted.all (fun c => c = 'p' || letters.contains c) then
          some (Declaration.full s.encoding name v)
        else none))
      print command text

/-- Let the habits come back at the end of the function. -/
def keepHabits : Act Unit :=
  change (fun s =>
    { s with
      frames :=
        inFunction (fun f =>
          { f with habits := some (f.habits.getD s.habits) }) s.frames })

/-- Give parameters other values for the time of a function, in the plain
    family. -/
def localAll : List Argument → Work Nat
  | [] => return 0
  | .list name _ _ :: rest => do
      let _ ← liftM (keepVariable name)
      localAll rest
  | .text arg :: rest => do
      let w := written arg
      if arg = "-" then
        liftM keepHabits
        localAll rest
      else if !isName w.name || w.adds then badPlainName "local" w.name
      else
        let _ ← liftM (keepVariable w.name)
        liftM (assign w)
        localAll rest

/-- Give parameters other values for the time of a function. -/
def localOf (args : List Argument) : Work Nat := do
  let inFunction := (← liftM session).function?.isSome
  match ← liftM dialect with
  | .extended =>
      let isDash : Argument → Bool
        | .text "-" => true
        | _ => false
      let others := args.filter (fun a => !isDash a)
      if inFunction && others.length < args.length then
        liftM keepHabits
        if others.isEmpty then return 0 else declare "local" others
      else declare "local" args
  | .plain =>
      if inFunction then localAll args
      else refuse "local: not in a function" 2

/-! ## unset -/

/-- Forget an item of a list or a table. -/
def unsetItem (name key : String) : Work Nat := do
  let v ← liftM (variableOf name)
  let name' ← liftM (resolve name)
  if v.fixed then
    refuse ("unset: " ++ name ++ ": cannot unset: readonly variable") 1
  else
    match v.content with
    | .table entries =>
        let left := entries.filter (fun e => e.1 != key)
        liftM (putVariable name' { v with content := .table left })
        return 0
    | .nothing => return 0
    | c =>
        if key = "@" || key = "*" then
          liftM (forget name')
          return 0
        else
          let n ← liftM (calculate key)
          match c, c.place? n with
          | .text _, some 0 =>
              liftM (forget name')
              return 0
          | .text _, _ =>
              liftM (complain ("unset: " ++ name ++ ": not an array variable"))
              return 1
          | c, some place =>
              let left := c.asItems.filter (fun e => e.1 != place)
              liftM (putVariable name' { v with content := .list left })
              return 0
          | _, none =>
              liftM (complain ("unset: [" ++ key ++ "]: bad array subscript"))
              return 1

/-- Take a variable out of some of those that have been kept, if it is there;
    answers what it was, too. -/
def takeKept? (name : String) (kept : List (String × Option Variable)) :
    Option (Option Variable × List (String × Option Variable)) :=
  (kept.lookup name).map (fun old =>
    (old, kept.filter (fun e => e.1 != name)))

/-- Take a variable out of the innermost of several that has it. -/
def takeLent? (name : String) :
    List (List (String × Option Variable)) →
      Option (Option Variable × List (List (String × Option Variable)))
  | [] => none
  | kept :: rest =>
      match takeKept? name kept with
      | some (old, left) => some (old, left :: rest)
      | none => (takeLent? name rest).map (fun e => (e.1, kept :: e.2))

/-- Take a variable out of what calls have kept, the innermost first. -/
def takeFrame? (name : String) :
    List Frame → Option (Option Variable × List Frame)
  | [] => none
  | f :: rest =>
      match takeKept? name f.kept, takeLent? name f.lent with
      | some (old, left), _ => some (old, { f with kept := left } :: rest)
      | none, some (old, left) => some (old, { f with lent := left } :: rest)
      | none, none => (takeFrame? name rest).map (fun e => (e.1, f :: e.2))

/-- Forget a variable, so that the one is seen that it has covered. -/
def uncover (name : String) : Act Unit := do
  let s ← session
  match takeLent? name s.lent, takeFrame? name s.frames with
  | some (old, left), _ => do
      restoreVariables [(name, old)]
      change (fun s => { s with lent := left })
  | none, some (old, left) => do
      restoreVariables [(name, old)]
      change (fun s => { s with frames := left })
  | none, none => forget name

/-- Forget a variable. -/
def unsetVariable (name : String) (itself : Bool) : Work Nat := do
  let target ← if itself then pure name else liftM (resolve name)
  let s ← liftM session
  match s.store.get? target with
  | none => return 0
  | some v =>
      if v.fixed then
        match s.dialect with
        | .plain => refuse ("unset: " ++ name ++ ": is read only") 2
        | .extended =>
            liftM (complain
              ("unset: " ++ name ++ ": cannot unset: readonly variable"))
            return 1
      else
        if target = "OPTIND" && s.dialect = .plain then
          liftM (forget target)
          refuse "unset: Illegal number: " 2
        else
          let isLocal := s.function?.any (fun f =>
            f.kept.any (fun e => e.1 == target))
          if s.dialect = .extended then
            if isLocal then liftM (putVariable target {})
            else liftM (uncover target)
          else liftM (forget target)
          return 0

/-- Forget a function. -/
def unsetFunction (name : String) : Work Nat := do
  match (← liftM session).functions.get? name with
  | some f =>
      if f.fixed then
        liftM (complain
          ("unset: " ++ name ++ ": cannot unset: readonly function"))
        return 1
      else
        liftM (change (fun s => { s with functions := s.functions.erase name }))
        return 0
  | none => return 0

/-- Forget variables or functions. -/
def unsetAll (options : List Choice) : List String → Work Nat
  | [] => return 0
  | arg :: rest => do
      let s ← liftM session
      let w := written arg
      let first ←
        match s.dialect with
        | .plain =>
            if has options 'f' then unsetFunction arg
            else if !isName arg then badPlainName "unset" arg
            else unsetVariable arg false
        | .extended =>
            if has options 'f' then unsetFunction arg
            else
              match w.key with
              | some key => unsetItem w.name (Arithmetic.bareKey key)
              | none =>
                  if has options 'v' || has options 'n'
                      || (s.store.get? arg).isSome then
                    unsetVariable arg (has options 'n')
                  else unsetFunction arg
      return max first (← unsetAll options rest)

/-- Forget variables or functions. -/
def unset (args : List String) : Work Nat := do
  let extended ← liftM isExtended
  let (options, names) ←
    readOptions "unset" (if extended then "fnv" else "fv") args
  if extended && has options 'f' && has options 'v' then
    refuse "unset: cannot simultaneously unset a function and a variable" 1
  else unsetAll options names

/-! ## Arguments -/

/-- Complain about an argument too many, and give up the line. -/
def tooMany {α : Type} (command : String) : Work α := do
  liftM (complain (command ++ ": too many arguments"))
  let gives : Act α := giveUp false
  liftM gives

/-- Drop arguments. -/
def shift (args : List String) : Work Nat := do
  let s ← liftM session
  let drop (n : Nat) : Work Nat := do
    liftM (change (fun s => { s with args := s.args.drop n }))
    return 0
  match s.dialect with
  | .plain =>
      let n ←
        match args with
        | [] => pure 1
        | arg :: _ => plainNumber "shift" arg
      if n ≤ s.args.length then drop n
      else refuse "shift: can't shift that many" 2
  | .extended =>
      match ← afterDashes' args with
      | [] => if s.args.isEmpty then return 1 else drop 1
      | arg :: more =>
          match number? arg with
          | none =>
              refuse ("shift: " ++ arg ++ ": numeric argument required") 1
          | some n =>
              if !more.isEmpty then tooMany "shift"
              else if n < 0 then
                refuse ("shift: " ++ arg ++ ": shift count out of range") 1
              else if n.toNat ≤ s.args.length then drop n.toNat
              else return 1
where
  /-- The arguments after the mark that ends options. -/
  afterDashes' : List String → Work (List String)
    | "--" :: rest => return rest
    | args => return args

/-- Work out the values of expressions. -/
def letAll (last : Int) : List String → Work Nat
  | [] => return if last = 0 then 1 else 0
  | arg :: rest => do
      match ← liftM (Arithmetic.evaluate arg) with
      | .ok n => letAll n rest
      | .error e => if e.isEmpty then return 1 else refuse ("let: " ++ e) 1

/-- Work out the values of expressions; success if the last one is not
    zero. -/
def letOf (args : List String) : Work Nat := do
  match args with
  | [] => refuse "let: expression expected" 1
  | "--" :: rest | rest => letAll 0 rest

/-! ## getopts -/

/-- Put what has been found into the name that was given. -/
def putOption (name value : String) : Work Nat := do
  if isName name then
    if ← liftM (attempt (assignText name false value)) then return 0
    else return 1
  else
    match ← liftM dialect with
    | .plain => badPlainName "getopts" name
    | .extended =>
        liftM (badName "getopts" name)
        return 1

/-- Give a parameter the argument of an option, or none. -/
def putArgument (value : Option String) : Act Unit :=
  match value with
  | some v => setText "OPTARG" v
  | none => forget "OPTARG"

/-- Remember how far options have been taken.  The extended family counts an
    argument when all of its letters have been taken. -/
def putPlace (place : OptionPlace) : Act Unit := do
  let within := (← isExtended) && !place.letters.isEmpty
  setText "OPTIND" (toString (if within then place.next - 1 else place.next))
  change (fun s => { s with options := place })

/-- Complain about options as they are found. -/
def optionFault (quiet : Bool) (plain extended : String) : Act Unit := do
  let s ← session
  match s.dialect with
  | .plain => if !quiet then sayLine plain
  | .extended =>
      if !quiet && s.text? "OPTERR" != some "0" then
        sayLine (s.name ++ ": " ++ extended)

/-- Take the next option from arguments. -/
def takeOption (known name : String) (args : List String) : Work Nat := do
  let s ← liftM session
  let extended := s.dialect = .extended
  let place := s.options
  let quiet := known.startsWith ":"
  let finished (next : Nat) : Work Nat := do
    if extended then liftM (putArgument none)
    let _ ← putOption name "?"
    liftM (putPlace ⟨next, []⟩)
    return 1
  let start : (Char × List Char × Nat) ⊕ Nat :=
    match place.letters with
    | c :: rest => .inl (c, rest, place.next)
    | [] =>
        match args[place.next - 1]? with
        | none => .inr (min place.next (args.length + 1))
        | some arg =>
            match arg.toList with
            | ['-', '-'] => .inr (place.next + 1)
            | '-' :: c :: rest => .inl (c, rest, place.next + 1)
            | _ => .inr place.next
  match start with
  | .inr next => finished next
  | .inl (c, rest, next) =>
      let letter := String.singleton c
      let known' := known.toList.dropWhile (fun d => d = ':')
      match takes? known' c with
      | none =>
          liftM (optionFault quiet ("Illegal option -" ++ letter)
            ("illegal option -- " ++ letter))
          liftM (putArgument (if quiet then some letter else none))
          let status ← putOption name "?"
          liftM (putPlace ⟨next, rest⟩)
          return status
      | some false =>
          liftM (putArgument (if extended then none else some ""))
          let status ← putOption name letter
          liftM (putPlace ⟨next, rest⟩)
          return status
      | some true =>
          match rest, args[next - 1]? with
          | _ :: _, _ =>
              liftM (putArgument (some (String.ofList rest)))
              let status ← putOption name letter
              liftM (putPlace ⟨next, []⟩)
              return status
          | [], some arg =>
              liftM (putArgument (some arg))
              let status ← putOption name letter
              liftM (putPlace ⟨next + 1, []⟩)
              return status
          | [], none =>
              liftM (optionFault quiet
                ("No arg for -" ++ letter ++ " option")
                ("option requires an argument -- " ++ letter))
              liftM (putArgument (if quiet then some letter else none))
              let status ← putOption name (if quiet then ":" else "?")
              liftM (putPlace ⟨next, []⟩)
              return status

/-- Take the next option from arguments. -/
def getopts (args : List String) : Work Nat := do
  let extended ← liftM isExtended
  let args ←
    if extended then afterDashes "getopts" args else pure args
  match args with
  | known :: name :: rest =>
      let all ←
        if rest.isEmpty then do pure (← liftM session).args else pure rest
      takeOption known name all
  | _ =>
      if extended then misuse "getopts"
      else refuse "getopts: Usage: getopts optstring var [arg...]" 2

end Builtin
end NodeFlow.Shell
