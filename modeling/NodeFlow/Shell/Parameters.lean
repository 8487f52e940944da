import NodeFlow.Shell.Listing
import NodeFlow.Shell.State

/-! # Parameters of a shell

    Most parameters are variables.  Others are signs and places of arguments,
    and some names always tell something about the shell itself. -/

namespace NodeFlow.Shell

/-- The characters of a text, octet by octet, that separate fields when no
    others are set. -/
def usualSeparators : String := " \t\n"

namespace Session

/-- The value of a variable, if it has one. -/
def text? (s : Session) (name : String) : Option String :=
  (s.store.get? name).bind (fun v => v.content.text?)

/-- The characters that separate fields. -/
def separators (s : Session) : List Char :=
  ((s.text? "IFS").getD usualSeparators).toList

/-- What makes a glyph: the first name that has a value decides. -/
def encoding (s : Session) : Encoding :=
  let names := ["LC_ALL", "LC_CTYPE", "LANG"]
  let set := names.filterMap (fun n =>
    (s.text? n).filter (fun t => !t.isEmpty))
  match s.dialect, set with
  | .extended, t :: _ =>
      if ["C.UTF-8", "C.utf8"].contains t then .several else .single
  | _, _ => .single

/-- The letters of the habits of a shell. -/
def habitLetters (s : Session) : String :=
  let on (name letter : String) : String :=
    if s.habits.contains name then letter else ""
  match s.dialect with
  | .plain =>
      on "errexit" "e" ++ on "noglob" "f" ++ on "ignoreeof" "I"
        ++ on "monitor" "m" ++ on "noexec" "n"
        ++ (if s.letters.toList.contains 's' then "s" else "")
        ++ on "xtrace" "x" ++ on "verbose" "v" ++ on "noclobber" "C"
        ++ on "allexport" "a" ++ on "notify" "b" ++ on "nounset" "u"
  | .extended =>
      on "allexport" "a" ++ on "notify" "b" ++ on "errexit" "e"
        ++ on "noglob" "f" ++ (if s.habits.contains "hashall" then "h" else "")
        ++ on "keyword" "k" ++ on "monitor" "m" ++ on "noexec" "n"
        ++ on "privileged" "p" ++ on "onecmd" "t" ++ on "nounset" "u"
        ++ on "verbose" "v" ++ on "xtrace" "x" ++ on "braceexpand" "B"
        ++ on "noclobber" "C" ++ on "errtrace" "E" ++ on "histexpand" "H"
        ++ on "physical" "P" ++ on "functrace" "T"
        ++ (if s.letters.toList.contains 'c' then "c" else "")
        ++ (if s.letters.toList.contains 's' then "s" else "")

/-- What a name tells about the shell itself. -/
def told? (s : Session) (name : String) : Option Content :=
  if s.dialect = .plain then none
  else
    match name with
    | "LINENO" => some (.text (toString s.line))
    | "RANDOM" => some (.text "17767")
    | "SRANDOM" => some (.text "1776717767")
    | "SECONDS" => some (.text "0")
    | "BASHPID" => some (.text (toString s.number))
    | "BASH_SUBSHELL" => some (.text (toString s.counted))
    | "PIPESTATUS" => some (.ofTexts (s.statuses.map toString))
    | "BASH_REMATCH" => some (.ofTexts s.matched)
    | "_" => some (.text s.lastArgument)
    | "BASH_COMMAND" => s.current.map (fun c => .text (Listing.single c))
    | "FUNCNAME" =>
        if s.frames.any (fun f => f.isFunction) then
          some (.ofTexts (s.frames.map (fun f =>
            if f.isFunction then f.name else "source")))
        else none
    | "BASH_SOURCE" => some (.ofTexts (s.frames.map Frame.source))
    | "BASH_LINENO" =>
        some (.ofTexts (s.frames.map (fun f => toString f.line)))
    | "SHELLOPTS" =>
        let all := s.habits.mergeSort (fun a b => decide (a ≤ b))
        some (.text (":".intercalate all))
    | "BASHOPTS" =>
        let all := s.features.mergeSort (fun a b => decide (a ≤ b))
        some (.text (":".intercalate all))
    | _ => none

end Session

/-- The name of the variable that a name leads to in the end. -/
def resolveFrom (vs : Variables) : Nat → String → String
  | 0, name => name
  | fuel + 1, name =>
      match vs.get? name with
      | some v =>
          if v.refers then
            match v.content with
            | .text target =>
                if target.isEmpty || !isName target then name
                else resolveFrom vs fuel target
            | _ => name
          else name
      | none => name

/-- The name of the variable that a name leads to in the end. -/
def resolve (name : String) : Act String := do
  return resolveFrom (← session).store 8 name

/-- What a variable holds. -/
def contentOf (name : String) : Act Content := do
  let s ← session
  match s.told? name with
  | some c => return c
  | none =>
      let name := resolveFrom s.store 8 name
      return ((s.store.get? name).map Variable.content).getD .nothing

/-- The text of a variable, if it has one. -/
def textOf? (name : String) : Act (Option String) := do
  return (← contentOf name).text?

/-- The variable of a name, without a content if there is none. -/
def variableOf (name : String) : Act Variable := do
  return ((← session).store.get? (← resolve name)).getD {}

/-- The value of a sign. -/
def signValue? (c : Char) : Act (Option String) := do
  let s ← session
  match c with
  | '?' => return some (toString s.status)
  | '$' => return some (toString s.firstNumber)
  | '#' => return some (toString s.args.length)
  | '!' => return s.lastAside.map toString
  | '-' => return some s.habitLetters
  | '@' | '*' =>
      return if s.args.isEmpty then none
        else some (" ".intercalate s.args)
  | _ => return none

/-- The argument at a place. -/
def argument? (n : Nat) : Act (Option String) := do
  let s ← session
  return if n = 0 then some s.name else s.args[n - 1]?

/-- Complain that a parameter has no value. -/
def missing {α : Type} (name : String) : Act α := do
  match ← dialect with
  | .plain => fault (name ++ ": parameter not set")
  | .extended =>
      protest (name ++ ": unbound variable")
      giveUp true

/-- Complain that a variable may not change. -/
def refuseChange {α : Type} (name : String) : Act α := do
  match ← dialect with
  | .plain => fault (name ++ ": is read only")
  | .extended => fault (name ++ ": readonly variable")

/-- Put a variable under a name. -/
def putVariable (name : String) (v : Variable) : Act Unit :=
  change (fun s => { s with store := s.store.insert name v })

/-- What follows when variables of particular names change. -/
def afterChange (name : String) : Act Unit := do
  if name = "OPTIND" then
    let n := ((← session).text? "OPTIND").getD "1"
    let next := if isNumber n then decimalValue n.toList else 1
    change (fun s => { s with options := ⟨max 1 next, []⟩ })

/-- Give a variable another content, unless it may not change. -/
def setContentOf (name : String) (c : Content) : Act Unit := do
  let name ← resolve name
  let s ← session
  let v := (s.store.get? name).getD {}
  if v.fixed then refuseChange name
  else
    let exported := v.exported || s.habits.contains "allexport"
    putVariable name
      { v with content := c, exported := exported, bare := false }
    afterChange name

/-- Give a variable a text. -/
def setText (name text : String) : Act Unit := do
  let target ← resolve name
  let s ← session
  let v := (s.store.get? target).getD {}
  let text := Variable.recased s.encoding v.recase text
  match v.content with
  | .list items => setContentOf target (.list (Content.insertItem 0 text items))
  | .table entries =>
      setContentOf target (.table (Content.insertKey "0" text entries))
  | _ => setContentOf target (.text text)

/-- Forget a variable. -/
def forget (name : String) : Act Unit :=
  change (fun s => { s with store := s.store.erase name })

/-- Change the innermost function around the command. -/
def inFunction (f : Frame → Frame) : List Frame → List Frame
  | [] => []
  | frame :: rest =>
      if frame.isFunction then f frame :: rest
      else frame :: inFunction f rest

/-- The innermost function around the command. -/
def Session.function? (s : Session) : Option Frame :=
  s.frames.find? Frame.isFunction

/-- Remember a variable for the end of the function; tells whether it has not
    been remembered before. -/
def keepVariable (name : String) : Act Bool := do
  let s ← session
  match s.function? with
  | none => return false
  | some f =>
      if f.kept.any (fun e => e.1 == name) then return false
      else
        let old := s.store.get? name
        change (fun s =>
          { s with
            frames :=
              inFunction (fun f => { f with kept := (name, old) :: f.kept })
                s.frames })
        return true

/-- Variables as they were. -/
def restoreVariables (kept : List (String × Option Variable)) : Act Unit :=
  change (fun s =>
    { s with
      store :=
        kept.foldl
          (fun t (name, v) =>
            match v with
            | some v => t.insert name v
            | none => t.erase name)
          s.store })

end NodeFlow.Shell
