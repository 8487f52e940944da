import NodeFlow.Shell.Grammar
import NodeFlow.Shell.Parameters

/-! # Going through snippets

    A shell reads a snippet line by line and runs each line before it reads
    the next one.  A line that is no snippet ends that, with complaints; what
    has been run before stays done.  How a line is run is a parameter here. -/

namespace NodeFlow.Shell

/-- What the snippets of a shell are read by. -/
def Session.rules (s : Session) : Rules :=
  let stands := s.dialect = .plain || s.features.contains "expand_aliases"
  { dialect := s.dialect
    patterns := s.features.contains "extglob"
    encoding := s.encoding
    aliases := if stands then s.aliases.entries else [] }

namespace Snippet

/-- What stands before a complaint about a snippet. -/
def place (s : Session) (line : Nat) : String :=
  let called (name : String) : String :=
    if name.isEmpty then "" else name ++ ": "
  match s.dialect with
  | .plain => s.name ++ ": " ++ toString line ++ ": " ++ called s.speaker
  | .extended =>
      let source := if s.source = s.shownName then "" else s.source
      s.shownName ++ ": " ++ called source ++ "line "
        ++ toString (line + s.above) ++ ": "

/-- Say something about a snippet. -/
def say (complaints : List (Nat × String)) : Act Unit := do
  for (line, text) in complaints do
    sayLine (place (← session) line ++ text)

/-- Warn of texts that the end of a snippet has ended; the plain family does
    not. -/
def warn (all : List Unended) : Act Unit := do
  let s ← session
  unless s.dialect = .plain do
    for u in all do
      sayLine (s.shownName ++ ": line " ++ toString (u.lastLine + s.above)
        ++ ": warning: here-document at line " ++ toString (u.line + s.above)
        ++ " delimited by end-of-file (wanted \x60" ++ u.last ++ "')")

/-- The name of a snippet that is an argument of the shell. -/
def argument : String := "-c"

/-- Whether a snippet is the one that the shell has been started with. -/
def isFirst (s : Session) : Bool := s.nesting = 1

/-- Give up a snippet because of a fault.  The plain family gives up what it
    does; the extended one only goes on behind the snippet, unless the fault
    lies among the commands in a word. -/
def giveUpOver (f : SyntaxFault) : Act Unit := do
  say f.complaints
  let s ← session
  match s.dialect with
  | .plain =>
      setStatus 2
      throw .abandons
  | .extended =>
      if f.within then
        throw (.ends
          (if 0 < s.level then 1
            else if s.letters.toList.contains 'c' then 127
            else 2))
      else if f.inList then
        setStatus 1
        if 0 < s.level then throw (.ends 1)
      else
        setStatus (if f.isOpen && isFirst s && s.status != 0 then s.status
          else 2)

/-- Run a line.  When the extended family gives a line up, it goes on with the
    next one, except in a shell within a shell. -/
def runLine (run : List Command → Act Unit) (body : List Command) :
    Act Unit := do
  let before ← session
  tryCatch (run body) (fun flow => do
    if flow = .abandons && before.dialect = .extended && before.level = 0 then
      change (fun s =>
        { s with
          loops := before.loops
          asked := before.asked
          speaker := before.speaker })
    else throw flow)

/-- Whether the program that a command ends with may take the place of the
    shell. -/
def isReplaceable : Command → Bool
  | .simple _ _ _ redirects => redirects.isEmpty
  | .both _ second | .either _ second => isReplaceable second
  | _ => false

/-- The characters that have been taken, without the end of their last
    line. -/
def taken (before after : List Char) : String :=
  let all := before.take (before.length - after.length)
  String.ofList (if all.getLast? = some '\n' then all.dropLast else all)

/-- The number of the last line that has been read. -/
def lastRead (c : Cursor) : Nat :=
  if c.lineStart.length = c.rest.length then c.line - 1 else c.line

/-- Run a line that has been read. -/
def runRead (run : List Command → Act Unit) (after : Cursor)
    (body : List Command) : Act Unit := do
  change (fun s => { s with ground := lastRead after + s.above })
  runLine run body

/-- Go through a snippet; tells whether something has been run. -/
def goThrough (run : List Command → Act Unit) (echoes : Bool) :
    Nat → Cursor → Bool → Act Bool
  | 0, _, ran => return ran
  | fuel + 1, c, ran => do
      if c.rest.isEmpty then return ran
      else
        let s ← session
        let c := { c with
          rules := s.rules, unended := [], lineStart := c.rest }
        let (read, after) :=
          match Reader.line.run c with
          | .ok body after => (Except.ok body, after)
          | .error fault after => (.error fault, after)
        if echoes && s.habits.contains "verbose" then
          sayLine (taken c.rest after.rest)
        warn after.unended
        match read with
        | .error fault =>
            giveUpOver fault
            if fault.inList then
              goThrough run echoes fuel after.nextLine true
            else return true
        | .ok body =>
            unless s.habits.contains "noexec" do
              let ends := after.rest.isEmpty && isFirst s
                && s.letters.toList.contains 'c'
                && s.dialect = .extended
                && body.getLast?.any isReplaceable
              change (fun s => { s with last := ends })
              runRead run after body
            goThrough run echoes fuel after (ran || !body.isEmpty)

/-- Go through a text; tells whether something has been run. -/
def ofText (run : List Command → Act Unit) (echoes : Bool) (text : String) :
    Act Bool :=
  let cs := text.toList
  goThrough run echoes (cs.length + 1) { rest := cs } false

/-- Go through what can be read from the input, line by line, so that commands
    can read from it, too. -/
def ofInput (run : List Command → Act Unit) : Nat → Nat → Act Unit
  | 0, _ => return ()
  | fuel + 1, line => do
      match ← readable? 0 with
      | none | some [] => return ()
      | some cs =>
          let s ← session
          let c : Cursor := { rest := cs, line := line, rules := s.rules }
          let (read, after) :=
            match Reader.line.run c with
            | .ok body after => (Except.ok body, after)
            | .error fault after => (.error fault, after)
          if s.habits.contains "verbose" then sayLine (taken cs after.rest)
          consume 0 (cs.length - after.rest.length) after.rest
          warn after.unended
          match read with
          | .error fault =>
              giveUpOver fault
              if fault.inList then ofInput run fuel after.nextLine.line
          | .ok body =>
              unless s.habits.contains "noexec" do runRead run after body
              ofInput run fuel after.line

end Snippet
end NodeFlow.Shell
