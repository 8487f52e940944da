import NodeFlow.Shell.Command

/-! # Reading snippets

    A reader goes through the characters of a snippet from left to right.  It
    answers what it has read, or fails with what a shell says of a text that
    is no snippet.

    A text for a command that stands on the lines below is taken out when the
    command is read; a mark stands for each of its lines, so that the lines
    are still counted. -/

namespace NodeFlow.Shell

/-- What a shell says of a text that is no snippet, each time with the number
    of a line. -/
structure SyntaxFault where
  /-- The complaints. -/
  complaints : List (Nat × String)
  /-- Whether the text would have to go on. -/
  early : Bool := false
  /-- Whether quotes or brackets would have to be closed first. -/
  isOpen : Bool := false
  /-- Whether it lies among the commands in a word. -/
  within : Bool := false
  /-- Whether it lies among the items of a list. -/
  inList : Bool := false
  /-- What closes the quotes or brackets; nothing after the name of a
      parameter. -/
  missing : String := ""
  /-- The number of lines above the commands in a word among which it lies. -/
  above : Option Nat := none
  deriving DecidableEq, Repr

/-- What a snippet is read by. -/
structure Rules where
  /-- The family of the shell. -/
  dialect : Dialect := .plain
  /-- Whether signs before parentheses make patterns. -/
  patterns : Bool := false
  /-- What makes a glyph. -/
  encoding : Encoding := .single
  /-- What stands for commands by their names. -/
  aliases : List (String × String) := []

/-- A text that stands below a command and that the end of the snippet has
    ended. -/
structure Unended where
  /-- The line of the command. -/
  line : Nat
  /-- The last line of the text. -/
  lastLine : Nat
  /-- What the line says that should have ended the text. -/
  last : String
  deriving DecidableEq, Repr

/-- Characters of a snippet that are shown in another way. -/
structure Respelling where
  /-- The place of the first one. -/
  start : Nat
  /-- How many there are. -/
  size : Nat
  /-- What is shown instead. -/
  shown : String
  deriving DecidableEq, Repr

/-- How far a snippet has been read. -/
structure Cursor where
  /-- The characters that follow. -/
  rest : List Char
  /-- The number of the characters before. -/
  place : Nat := 0
  /-- The number of the line. -/
  line : Nat := 1
  /-- The characters from the beginning of the line on. -/
  lineStart : List Char := rest
  /-- What the snippet is read by. -/
  rules : Rules := {}
  /-- The names in whose stead other characters are being read, each with the
      number of characters that follow these. -/
  standIns : List (String × Nat) := []
  /-- The number of characters that follow a word which may have a stand-in,
      too. -/
  standsInNext : Option Nat := none
  /-- The texts below that the end of the snippet has ended. -/
  unended : List Unended := []
  /-- The number of the line among commands in a word, if they were listed
      with each part of a compound command on lines of its own. -/
  listed : Option Nat := none
  /-- The lines of texts below commands that would have to be listed next. -/
  textLines : Nat := 0
  /-- Whether the commands belong to a function. -/
  defining : Bool := false
  /-- Whether the characters are those of a text below a command. -/
  inText : Bool := false
  /-- The characters that are shown in another way, the last ones first. -/
  respelled : List Respelling := []
  /-- How much deeper the reading may go. -/
  depth : Nat := 2000

/-- Something that is read. -/
abbrev Reader : Type → Type := EStateM SyntaxFault Cursor

/-- What stands for a line that has been taken out. -/
def takenLine : Char := Char.ofNat 256

namespace Cursor

/-- The characters without the marks at their beginning, and how many of them
    there are. -/
def dropTaken : List Char → Nat × List Char
  | [] => (0, [])
  | c :: rest =>
      if c = takenLine then
        let (n, rest) := dropTaken rest
        (n + 1, rest)
      else (0, c :: rest)

/-- Go past one character. -/
def step (c : Cursor) : Cursor :=
  match c.rest with
  | [] => c
  | '\n' :: rest =>
      let (n, rest) := dropTaken rest
      { c with
        rest := rest
        place := c.place + 1 + n
        line := c.line + 1 + n
        lineStart := rest
        listed := c.listed.map (· + 1) }
  | _ :: rest => { c with rest := rest, place := c.place + 1 }

/-- The number of the line for a command that begins here. -/
def commandLine (c : Cursor) : Nat := c.listed.getD c.line

/-- Go past characters. -/
def steps : Nat → Cursor → Cursor
  | 0, c => c
  | n + 1, c => steps n c.step

/-- Go past the rest of the line. -/
def nextLine (c : Cursor) : Cursor :=
  steps ((c.rest.takeWhile (fun d => d != '\n')).length + 1) c

/-- Go past blanks, continued lines and a comment. -/
def afterBlanks : Nat → Cursor → Cursor
  | 0, c => c
  | fuel + 1, c =>
      match c.rest with
      | ' ' :: _ | '\t' :: _ => afterBlanks fuel c.step
      | '\\' :: '\n' :: _ => afterBlanks fuel c.step.step
      | '#' :: rest =>
          steps (rest.takeWhile (fun d => d != '\n')).length c.step
      | _ => c

/-- Go past blanks, comments and line ends. -/
def afterLines : Nat → Cursor → Cursor
  | 0, c => c
  | fuel + 1, c =>
      let c := afterBlanks fuel c
      match c.rest with
      | '\n' :: _ => afterLines fuel c.step
      | _ => c

end Cursor

/-- More characters than stand one behind the other in a snippet. -/
def longestText : Nat := 100000000

/-- Whether a character ends a word. -/
def endsWord (c : Char) : Bool :=
  c = ' ' || c = '\t' || c = '\n' || c = ';' || c = '&' || c = '|' || c = '<'
    || c = '>' || c = '(' || c = ')'

namespace Reader

/-- The characters that follow. -/
def rest : Reader (List Char) := do return (← get).rest

/-- The family of the shell. -/
def dialect : Reader Dialect := do return (← get).rules.dialect

/-- Go past characters. -/
def skip (n : Nat) : Reader Unit := modify (Cursor.steps n)

/-- Go past characters that would not be listed. -/
def skipUnlisted (n : Nat) : Reader Unit :=
  modify (fun c => { Cursor.steps n c with listed := c.listed })

/-- Go past blanks. -/
def blanks : Reader Unit :=
  modify (fun c =>
    { Cursor.afterBlanks longestText c with listed := c.listed })

/-- Go past blanks and line ends. -/
def lines : Reader Unit :=
  modify (fun c =>
    { Cursor.afterLines longestText c with listed := c.listed })

/-- Count line ends that would be listed. -/
def listLines (n : Nat) : Reader Unit :=
  modify (fun c => { c with listed := c.listed.map (· + n) })

/-- Count the lines of texts below commands that would be listed now. -/
def listTexts : Reader Unit :=
  modify (fun c =>
    { c with listed := c.listed.map (· + c.textLines), textLines := 0 })

/-- Go past a sign, if it is there. -/
def sign? (s : String) : Reader Bool := do
  if beginsWith s.toList (← rest) then
    skip s.length
    return true
  else return false

/-- Show characters in another way from here on. -/
def respell (start : Cursor) (shown : String) : Reader Unit :=
  modify (fun c =>
    { c with
      respelled :=
        ⟨start.place, c.place - start.place, shown⟩
          :: c.respelled.dropWhile (fun p => start.place ≤ p.start) })

/-- Characters that begin at a place, some of them shown in another way. -/
def shownFrom (place : Nat) (cs : List Char) : List Respelling → List Char
  | [] => cs
  | p :: more =>
      let (before, rest) := cs.splitAt (p.start - place)
      before ++ p.shown.toList
        ++ shownFrom (p.start + p.size) (rest.drop p.size) more

/-- The characters from one place in a snippet to another one. -/
def between (start stop : Cursor) : String :=
  let cs := start.rest.take (stop.place - start.place)
  let respelled :=
    (stop.respelled.takeWhile (fun p => start.place ≤ p.start)).reverse
  String.ofList ((shownFrom start.place cs respelled).filter
    (fun c => c != takenLine))

/-! ## What comes next -/

/-- The characters up to the end of the word. -/
def bareWord (cs : List Char) : String :=
  String.ofList (cs.takeWhile (fun c => !endsWord c))

/-- The characters up to the end of the word, with those between quotes and
    brackets; what closes these is given, the innermost first. -/
def wholeWord : List Char → List Char → List Char
  | _, [] => []
  | '\'' :: up, c :: rest =>
      c :: wholeWord (if c = '\'' then up else '\'' :: up) rest
  | closing, c :: rest =>
      let inner := closing.head?
      if inner = none && endsWord c then []
      else if inner = some c then c :: wholeWord closing.tail rest
      else
        match c, rest with
        | '\\', d :: rest => c :: d :: wholeWord closing rest
        | '$', '(' :: rest => c :: '(' :: wholeWord (')' :: closing) rest
        | '$', '\x7b' :: rest =>
            c :: '\x7b' :: wholeWord ('\x7d' :: closing) rest
        | c, rest =>
            let opens : Option Char :=
              if c = '"' || c = '\x60' then some c
              else if c = '\'' && inner != some '"' then some c
              else if c = '(' && inner = some ')' then some ')'
              else none
            c :: wholeWord (opens.toList ++ closing) rest

/-- The signs between words, a longer one before its beginning. -/
def signs : Dialect → List String
  | .plain =>
      ["<<-", "<<", ">>", "<&", ">&", ">|", "<>", "&&", "||", ";;", "<", ">",
        "&", "|", ";", "(", ")"]
  | .extended =>
      ["<<<", "<<-", "&>>", ";;&", "<<", ">>", "<&", ">&", ">|", "<>", "&>",
        "&&", "||", "|&", ";;", ";&", "<", ">", "&", "|", ";", "(", ")"]

/-- The sign that comes next, if there is one. -/
def signAhead? (d : Dialect) (cs : List Char) : Option String :=
  (signs d).find? (fun s => beginsWith s.toList cs)

/-- The words that end a list of commands. -/
def closers : List String :=
  ["then", "do", "done", "fi", "else", "elif", "esac", "\x7d"]

/-- The words that have a meaning of their own. -/
def reserved : List String :=
  closers ++ ["!", "case", "for", "if", "in", "until", "while", "\x7b"]

/-- Whether a redirection begins here. -/
def atRedirect (d : Dialect) (cs : List Char) : Bool :=
  let digits := cs.takeWhile Char.isDigit
  let few := d = .extended || digits.length ≤ 1
  match (if few then cs.drop digits.length else cs) with
  | '>' :: '(' :: _ | '<' :: '(' :: _ => d = .plain || !digits.isEmpty
  | '>' :: _ | '<' :: _ => true
  | '&' :: '>' :: _ => d = .extended && digits.isEmpty
  | '\x7b' :: rest =>
      d = .extended && digits.isEmpty
        && (match nameAhead rest with
          | (name, '\x7d' :: '>' :: _) | (name, '\x7d' :: '<' :: _) =>
              !name.isEmpty
          | _ => false)
  | _ => false

/-! ## Faults -/

/-- Fail with complaints. -/
def fail {α : Type} (complaints : List (Nat × String)) (early : Bool) :
    Reader α :=
  throw { complaints := complaints, early := early }

/-- A word as the plain family names it. -/
def named (w : String) : String := "\"" ++ w ++ "\""

/-- How the plain family names what comes next; a word with a meaning of its
    own only where it has that meaning. -/
def plainAhead (keywords : Bool) (cs : List Char) : String :=
  match cs with
  | [] => "end of file"
  | '\n' :: _ => "newline"
  | cs =>
      if atRedirect .plain cs then "redirection"
      else
        match signAhead? .plain cs with
        | some s => named s
        | none =>
            let w := String.ofList (wholeWord [] cs)
            if keywords && reserved.contains w then named w else "word"

/-- The line of the last character of a snippet. -/
def lastLine (c : Cursor) : Nat :=
  c.line + (c.rest.filter (fun d => d = '\n' || d = takenLine)).length

/-- The number of the line after the last one. -/
def lineBelow (c : Cursor) : Nat :=
  let ended :=
    if c.rest.isEmpty then c.lineStart.isEmpty
    else c.rest.getLast? = some '\n'
  lastLine c + (if ended then 0 else 1)

/-- Fail because a snippet ends too early, in the extended family. -/
def failAtEnd {α : Type} : Reader α := do
  fail [(lineBelow (← get), "syntax error: unexpected end of file")] true

/-- The text of the line. -/
def lineText (c : Cursor) : String :=
  String.ofList
    ((c.lineStart.takeWhile (fun d => d != '\n')).filter
      (fun d => d != takenLine))

/-- Fail because of a word or sign, in the extended family. -/
def failNear {α : Type} (what : String) : Reader α := do
  let c ← get
  fail
    [(c.line, "syntax error near unexpected token `" ++ what ++ "'"),
      (c.line, "`" ++ lineText c ++ "'")] false

/-- Fail because of what comes next.  When `mayBreak`, lines may end here; when
    `keywords`, words may have a meaning of their own. -/
def unexpected {α : Type} (expected : Option String) (mayBreak : Bool)
    (keywords : Bool) : Reader α := do
  match ← dialect with
  | .plain =>
      blanks
      let c ← get
      let line :=
        match c.rest with
        | '\n' :: _ => c.line + 1
        | cs =>
            c.line + ((wholeWord [] cs).filter (fun d => d = '\n')).length
      fail
        [(line,
          "Syntax error: " ++ plainAhead keywords c.rest ++ " unexpected"
            ++ (match expected with
              | some w => " (expecting " ++ w ++ ")"
              | none => ""))] c.rest.isEmpty
  | .extended =>
      if mayBreak then lines else blanks
      let cs ← rest
      match cs with
      | [] => if mayBreak then failAtEnd else failNear "newline"
      | '\n' :: _ => failNear "newline"
      | cs =>
          match signAhead? .extended cs with
          | some s => failNear s
          | none =>
              let digits := cs.takeWhile Char.isDigit
              if atRedirect .extended cs && !digits.isEmpty then
                failNear (String.ofList digits)
              else failNear (String.ofList (wholeWord [] cs))

/-- Fail because something that begins on a line is never closed; it is said
    to be `missing` where a text is no snippet. -/
def unclosedAs {α : Type} (missing : String) (line : Nat)
    (close plain : String) : Reader α := do
  let c ← get
  let complaint :=
    match c.rules.dialect with
    | .plain => (lastLine c, "Syntax error: " ++ plain)
    | .extended =>
        (line, "unexpected EOF while looking for matching `" ++ close ++ "'")
  throw
    { complaints := [complaint], early := true, isOpen := true
      missing := missing }

/-- Fail because something that begins on a line is never closed. -/
def unclosed {α : Type} (line : Nat) (close plain : String) : Reader α :=
  unclosedAs close line close plain

/-! ## Words with a meaning of their own -/

/-- Go past a word that has a meaning of its own, if it is there. -/
def keyword? (w : String) : Reader Bool := do
  let cs ← rest
  if bareWord cs = w then
    skip w.length
    return true
  else return false

/-- Go past a word that has a meaning of its own. -/
def keyword (w : String) : Reader Unit := do
  lines
  if ← keyword? w then return ()
  else unexpected (some (named w)) true true

/-- Go past a sign that must be there. -/
def sign (s : String) (mayBreak : Bool) : Reader Unit := do
  if mayBreak then lines else blanks
  if ← sign? s then return ()
  else unexpected (some (named s)) mayBreak false

/-! ## Texts in a snippet -/

/-- The lines of characters, without their ends. -/
def splitLines (cs : List Char) : List (List Char) :=
  match cs with
  | [] => [[]]
  | '\n' :: rest => [] :: splitLines rest
  | c :: rest =>
      match splitLines rest with
      | [] => [[c]]
      | l :: more => (c :: l) :: more

/-- The lines up to one that says `last`, without tabs in front of them when
    `bare`, those after it, and whether there is one. -/
def linesUpTo (last : List Char) (bare : Bool) :
    List (List Char) → List (List Char) × List (List Char) × Bool
  | [] => ([], [], false)
  | l :: rest =>
      let plain := l.filter (fun c => c != takenLine)
      let shown := if bare then plain.dropWhile (fun c => c = '\t') else plain
      if shown = last then ([], rest, true)
      else
        let (text, after, found) := linesUpTo last bare rest
        (shown :: text, after, found)

/-- Lines as characters with line ends between them. -/
def joinLines (ls : List (List Char)) : List Char :=
  ['\n'].intercalate ls

/-- Take out the text that begins on the next line, up to one that says
    `last`; answers it and the number of its first line. -/
def takeText (last : String) (bare : Bool) : Reader (String × Nat) := do
  let c ← get
  let line := c.rest.takeWhile (fun d => d != '\n')
  match c.rest.drop line.length with
  | [] =>
      set { c with unended := c.unended ++ [Unended.mk c.line c.line last] }
      return ("", c.line + 1)
  | _ :: below =>
      let (taken, below) := Cursor.dropTaken below
      let place := c.line + taken
      let all := splitLines below
      let (text, after, found) := linesUpTo last.toList bare all
      let heading := if c.textLines = 0 then 1 else 0
      let c := { c with textLines := c.textLines + heading + text.length + 1 }
      if found then
        let marks := List.replicate (taken + text.length + 1) takenLine
        set { c with
          rest := line ++ '\n' :: (marks ++ joinLines after) }
        return (String.ofList (text.flatMap (fun l => l ++ ['\n'])), place + 1)
      else
        let ended := text.getLast? = some []
        let text := if ended then text.dropLast else text
        let closes := ended || c.rules.dialect != Dialect.plain
        let ends := text.length - (if closes then 0 else 1)
        let unended := Unended.mk place (place + text.length) last
        set { c with
          rest := line ++ '\n' :: List.replicate (taken + ends) takenLine
          unended := c.unended ++ [unended] }
        let shown :=
          if closes then text.flatMap (fun l => l ++ ['\n'])
          else joinLines text
        return (String.ofList shown, place + 1)

end Reader
end NodeFlow.Shell
