import NodeFlow.Shell.Builtin.Values
import NodeFlow.Shell.Field

/-! # Commands that read

    These commands read lines from a stream into parameters.  A line is split
    into fields; the last parameter gets all that is left.  `cat` copies what
    it reads. -/

namespace NodeFlow.Shell

namespace Builtin

/-- A character of a line, and whether a backslash stood before it. -/
abbrev Sign : Type := Char × Bool

/-- How a line is read. -/
structure LineRules where
  /-- Whether backslashes stand for themselves. -/
  raw : Bool
  /-- The character that ends it, if any does. -/
  delimiter : Option Char
  /-- The number of characters after which it ends, if there is one. -/
  limit : Option Nat

/-- A line that has been read. -/
structure Line where
  /-- Its characters. -/
  signs : List Sign := []
  /-- Whether it has come to its end. -/
  ended : Bool := false
  /-- The number of its characters. -/
  count : Nat := 0
  /-- The number of characters that were read. -/
  size : Nat := 0
  /-- What follows. -/
  rest : List Char := []

/-- A line with another character. -/
def Line.with (l : Line) (c : Sign) : Line :=
  { l with signs := c :: l.signs, count := l.count + 1 }

/-- Read a line; the last character of it comes first. -/
def readLine (rules : LineRules) (l : Line) : List Char → Line
  | [] => { l with rest := [] }
  | c :: rest =>
      if rules.limit = some l.count then
        { l with ended := true, rest := c :: rest }
      else if c = '\\' && !rules.raw then
        match rest with
        | [] => { l with size := l.size + 1, rest := [] }
        | d :: rest' =>
            let l := { l with size := l.size + 2 }
            if d = '\n' then readLine rules l rest'
            else readLine rules (l.with (d, true)) rest'
      else
        let l := { l with size := l.size + 1 }
        if rules.delimiter = some c then { l with ended := true, rest := rest }
        else if c.toNat = 0 then readLine rules l rest
        else readLine rules (l.with (c, false)) rest

/-- The text of characters. -/
def signText (signs : List Sign) : String :=
  String.ofList (signs.map (·.1))

/-! ## Fields of a line -/

/-- Whether a character is a space among the separators. -/
def isSpacing (separators : List Char) (c : Sign) : Bool :=
  !c.2 && separators.contains c.1 && Atom.mayRepeat c.1

/-- Whether a character separates fields. -/
def separates (separators : List Char) (c : Sign) : Bool :=
  !c.2 && separators.contains c.1

/-- The first field, and what follows its end. -/
def firstField (separators : List Char) (signs : List Sign) :
    List Sign × List Sign :=
  let signs := signs.dropWhile (isSpacing separators)
  let field := signs.takeWhile (fun c => !separates separators c)
  let rest := signs.drop field.length
  let spaced := rest.dropWhile (isSpacing separators)
  match spaced with
  | c :: more =>
      if separates separators c then
        (field, more.dropWhile (isSpacing separators))
      else (field, spaced)
  | [] => (field, [])

/-- What the last parameter gets: a single field without its end, or all that
    is left without the spaces around it. -/
def lastField (separators : List Char) (signs : List Sign) : List Sign :=
  let (field, rest) := firstField separators signs
  if rest.isEmpty then field
  else
    let signs := signs.dropWhile (isSpacing separators)
    (signs.reverse.dropWhile (isSpacing separators)).reverse

/-- The fields of a line for so many names. -/
def fieldsFor (separators : List Char) : Nat → List Sign → List String
  | 0, _ => []
  | 1, signs => [signText (lastField separators signs)]
  | n + 1, signs =>
      let (field, rest) := firstField separators signs
      signText field :: fieldsFor separators n rest

/-- All fields of a line; fuel bounds their number. -/
def allFields (separators : List Char) : Nat → List Sign → List String
  | 0, _ => []
  | fuel + 1, signs =>
      if (signs.dropWhile (isSpacing separators)).isEmpty then []
      else
        let (field, rest) := firstField separators signs
        signText field :: allFields separators fuel rest

/-! ## read -/

/-- Give names the fields of a line; stops at the first one that is none. -/
def putFields : List String → List String → Work Nat
  | [], _ => return 0
  | name :: names, values => do
      let value := values.headD ""
      let w := written name
      let extended ← liftM isExtended
      if !isName w.name || w.value.isSome || (w.key.isSome && !extended) then
        if extended then
          liftM (badName "read" name)
          return 1
        else badPlainName "read" name
      else
        let done ← liftM (attempt (assign { w with value := some value }))
        if done then putFields names values.tail else return 1

/-- Whether a stream leads to a directory. -/
def leadsToDirectory (stream : Nat) : Act Bool := do
  match ← channel? stream with
  | some (_, .file way _ _ _ _) =>
      return (← world).files.entry? way == some .directory
  | _ => return false

/-- The number in the argument of an option of the extended family. -/
def countOf (command : String) (text : String) (what : String) :
    Work Nat := do
  match number? text with
  | some n =>
      if 0 ≤ n then return n.toNat
      else refuse (command ++ ": " ++ text ++ ": " ++ what) 1
  | none => refuse (command ++ ": " ++ text ++ ": " ++ what) 1

/-- The stream that an option names. -/
def streamOf (command : String) (options : List Choice) : Work Nat := do
  match argumentOf? options 'u' with
  | none => return 0
  | some text =>
      let n ← countOf command text "invalid file descriptor specification"
      match ← liftM (channel? n) with
      | some _ => return n
      | none =>
          refuse (command ++ ": " ++ text
            ++ ": invalid file descriptor: Bad file descriptor") 1

/-- Read a line into parameters. -/
def read (args : List String) : Work Nat := do
  let extended ← liftM isExtended
  let (options, names) ←
    readOptions "read" (if extended then "ersa:d:i:n:N:p:t:u:" else "p:r") args
  if !extended && names.isEmpty then refuse "read: arg count" 2
  else
    match names.find? (fun n => extended && !isName (written n).name) with
    | some name =>
        liftM (badName "read" name)
        return 1
    | none =>
        let stream ← streamOf "read" options
        let exact := has options 'N'
        let count ←
          match argumentOf? options 'N', argumentOf? options 'n' with
          | some t, _ | none, some t => do
              pure (some (← countOf "read" t "invalid number"))
          | none, none => pure none
        let delimiter :=
          match argumentOf? options 'd' with
          | some t => t.toList.headD (Char.ofNat 0)
          | none => '\n'
        let rules : LineRules :=
          { raw := has options 'r'
            delimiter := if exact then none else some delimiter
            limit := count }
        match ← liftM (readable? stream) with
        | none =>
            if extended then
              liftM (complain ("read: read error: " ++ toString stream
                ++ ": Bad file descriptor"))
            return 1
        | some cs =>
            if ← liftM (leadsToDirectory stream) then
              if extended then
                liftM (complain ("read: read error: " ++ toString stream
                  ++ ": Is a directory"))
              return 1
            else if count = some 0 then return 0
            else
              let l := readLine rules {} cs
              liftM (consume stream l.size l.rest)
              let full := count.any (fun n => n ≤ l.count)
              let signs := l.signs.reverse
              let status := if l.ended || full then 0 else 1
              let separators := (← liftM session).separators
              match argumentOf? options 'a' with
              | some name =>
                  if !isName name then
                    liftM (badName "read" name)
                    return 1
                  else
                    let items := allFields separators (signs.length + 1) signs
                    let done ← liftM (attempt
                      (assignList name false (items.map .next)))
                    return if done then status else 1
              | none =>
                  let wrong ←
                    match names with
                    | [] => putFields ["REPLY"] [signText signs]
                    | names =>
                        if exact then putFields names [signText signs]
                        else
                          putFields names
                            (fieldsFor separators names.length signs)
                  return if wrong = 0 then status else wrong

/-! ## mapfile -/

/-- The lines of characters, each with the character that ends it unless that
    is left out. -/
def linesWith (delimiter : Char) (bare : Bool) (current : List Char) :
    List Char → List String
  | [] => if current.isEmpty then [] else [String.ofList current.reverse]
  | c :: rest =>
      if c = delimiter then
        let whole := if bare then current else c :: current
        String.ofList (whole.reverse.filter (fun c => c.toNat != 0))
          :: linesWith delimiter bare [] rest
      else linesWith delimiter bare (c :: current) rest

/-- The characters of so many lines, and those after them. -/
def takeLines (delimiter : Char) :
    Nat → List Char → List Char × List Char
  | 0, cs => ([], cs)
  | n + 1, cs =>
      let line := cs.takeWhile (fun c => c != delimiter)
      match cs.drop line.length with
      | [] => (line, [])
      | c :: rest =>
          let (more, after) := takeLines delimiter n rest
          (line ++ c :: more, after)

/-- Read lines into a list. -/
def mapfile (command : String) (args : List String) : Work Nat := do
  let (options, names) ← readOptions command "d:u:n:O:tC:c:s:" args
  let stream ← streamOf command options
  let count (c : Char) (what : String) : Work Nat := do
    match argumentOf? options c with
    | some t => countOf command t what
    | none => return 0
  let most ← count 'n' "invalid line count"
  let skipped ← count 's' "invalid line count"
  let origin ← count 'O' "invalid array origin"
  let delimiter :=
    match argumentOf? options 'd' with
    | some t => t.toList.headD (Char.ofNat 0)
    | none => '\n'
  let name := names.headD "MAPFILE"
  if !isName name then
    liftM (badName command name)
    return 1
  else
    match ← liftM (readable? stream) with
    | none => return 1
    | some cs =>
        let (_, cs') := takeLines delimiter skipped cs
        let (text, rest) :=
          if most = 0 then (cs', []) else takeLines delimiter most cs'
        liftM (consume stream (cs.length - rest.length) rest)
        let lines := linesWith delimiter (has options 't') [] text
        let entries : List Entry := lines.zipIdx.map (fun (line, i) =>
          .placed (toString (origin + i)) false line)
        let adds := has options 'O'
        if (← liftM (variableOf name)).content.isTable then
          refuse (command ++ ": " ++ name ++ ": not an indexed array") 1
        else
          let done ← liftM (attempt (assignList name adds entries))
          return if done then 0 else 1

/-! ## cat -/

/-- Complain as a program of its own. -/
def grumble (text : String) : Act Nat := do
  sayLine ("cat: " ++ text)
  return 1

/-- Copy octets to the output. -/
def copy (text : String) : Act Nat := do
  match ← printOn 1 text with
  | none => return 0
  | some .closed => grumble "standard output: Bad file descriptor"
  | some .full => grumble "write error: No space left on device"

/-- Copy files, or what can still be read, to the output. -/
def catAll : List String → Act Nat
  | [] => return 0
  | arg :: rest => do
      let first ←
        if arg = "-" then
          if ← leadsToDirectory 0 then grumble "-: Is a directory"
          else
            match ← readAll 0 with
            | some text => copy text
            | none =>
                let _ ← grumble "-: Bad file descriptor"
                grumble "closing standard input: Bad file descriptor"
        else
          match ← contentAt arg with
          | .ok cs => copy (String.ofList cs)
          | .error e => grumble (arg ++ ": " ++ Paths.reason e)
      return max first (← catAll rest)

/-- Copy files, or what can still be read, to the output. -/
def cat (args : List String) : Act Nat := do
  let flags := args.filter (fun a => a.startsWith "-" && a != "-")
  match flags.find? (fun a => a != "-u" && a != "--") with
  | some flag =>
      sayLine ("cat: invalid option -- '" ++ (flag.drop 1).toString ++ "'")
      sayLine "Try 'cat --help' for more information."
      return 1
  | none =>
      let files := args.filter (fun a => a = "-" || !a.startsWith "-")
      if (← channel? 1).isNone then
        grumble "standard output: Bad file descriptor"
      else catAll (if files.isEmpty then ["-"] else files)

end Builtin
end NodeFlow.Shell
