import NodeFlow.Shell.Clause

/-! # The grammar of snippets

    A shell reads and runs a snippet line by line: `Reader.line` reads the
    commands up to the end of a line.

    Fuel bounds the length of what is read together with its depth. -/

namespace NodeFlow.Shell

namespace Reader

/-- Whether a list of commands ends here. -/
def atClose (d : Dialect) (cs : List Char) : Bool :=
  match cs with
  | [] => true
  | ')' :: _ => true
  | ';' :: ';' :: _ => true
  | ';' :: '&' :: _ => d = .extended
  | cs => closers.contains (bareWord cs)

/-- Read the name of another command in the place of a word that stands for
    it; tells whether it does. -/
def standIn : Reader Bool := do
  let c ← get
  let size := c.rest.length
  let w := bareWord c.rest
  let active := c.standIns.filter (fun (_, n) => n < size)
  match c.rules.aliases.lookup w with
  | none => return false
  | some text =>
      if active.any (fun (name, _) => name = w) then return false
      else
        let after := c.rest.drop w.length
        set { c with
          rest := text.toList ++ after
          standIns := (w, after.length) :: active
          standsInNext :=
            if text.toList.getLast?.any isBlank then some after.length
            else none }
        return true

/-- Whether the next word may have a stand-in because the one before asks for
    that. -/
def mayStandIn : Reader Bool := do
  let c ← get
  match c.standsInNext with
  | some n =>
      if c.rest.length ≤ n then
        set { c with standsInNext := none }
        return true
      else return false
  | none => return false

/-- What follows the bracket that closes the one before. -/
def afterBracket? (quote : Option Char) (level : Nat) :
    List Char → Option (List Char)
  | [] => none
  | c :: rest =>
      match quote with
      | some q => afterBracket? (if c = q then none else some q) level rest
      | none =>
          if c = '\'' || c = '"' then afterBracket? (some c) level rest
          else if c = '[' then afterBracket? none (level + 1) rest
          else if c = ']' then
            if level = 0 then some rest
            else afterBracket? none (level - 1) rest
          else if c = '\n' then none
          else afterBracket? none level rest

/-- How a value is given: anew, or behind the one there is; nothing if no
    value follows. -/
def giving? (d : Dialect) : List Char → Option Bool
  | '=' :: _ => some false
  | '+' :: '=' :: _ => if d = .extended then some true else none
  | _ => none

/-- Whether an assignment begins here. -/
def atAssignment (d : Dialect) (cs : List Char) : Bool :=
  match nameAhead cs with
  | (name, after) =>
      !name.isEmpty
        && ((giving? d after).isSome
          || (d = .extended
            && (match after with
              | '[' :: inside =>
                  ((afterBracket? none 0 inside).bind (giving? d)).isSome
              | _ => false)))

/-- The commands that take assignments as arguments. -/
def declaring : List String :=
  ["declare", "typeset", "local", "export", "readonly"]

/-- What has been read of a simple command, the last first. -/
structure Simple where
  /-- The number of its line. -/
  line : Nat
  /-- Whether that number is final. -/
  settled : Bool := true
  /-- The assignments. -/
  assignments : List Assignment := []
  /-- The words. -/
  words : List Word := []
  /-- The redirections. -/
  redirects : List Redirect := []

/-- A command whose error output goes where its output goes. -/
def withErrors (line : Nat) (c : Command) : Command :=
  let r : Redirect := .mk (some 2) none (.copy (.mk [.plain "1"] "1") true)
  match c with
  | .simple n assignments words redirects =>
      .simple n assignments words (redirects ++ [r])
  | .redirected n c redirects => .redirected n c (redirects ++ [r])
  | c => .redirected line c [r]

/-- A compound command with a number for its line. -/
def onLine (line : Nat) : Command → Command
  | .redirected _ c rs => .redirected line c rs
  | .each _ asks name words body => .each line asks name words body
  | .select _ w branches => .select line w branches
  | c => c

/-- A command whose success counts as a failure, and the other way round. -/
def opposite : Command → Command
  | .timed usual c => .timed usual (opposite c)
  | .pipeline inverted all => .pipeline (!inverted) all
  | c => .pipeline true [c]

/-- Whether nothing but the end of a command is ahead. -/
def ends : List Char → Bool
  | [] | '\n' :: _ | ';' :: _ => true
  | _ => false

mutual

/-- Read a redirection. -/
def redirect : Nat → Reader Redirect
  | 0 => fail [] false
  | fuel + 1 => do
      let c ← get
      let d := c.rules.dialect
      let digits := c.rest.takeWhile Char.isDigit
      let name :=
        match c.rest with
        | '\x7b' :: more => (nameAhead more).1
        | _ => ""
      skip (if name.isEmpty then digits.length else name.length + 2)
      let stream := if digits.isEmpty then none else some (decimalValue digits)
      let name := if name.isEmpty then none else some name
      let file : Reader Word := do
        blanks
        let cs ← rest
        if atRedirect d cs then unexpected none false false
        else
          let w ← Words.word (commandsInside fuel) (.word c.rules.patterns)
          if w.source.isEmpty then unexpected none false false else return w
      let leading (target : Word → Target) : Reader Redirect := do
        return .mk stream name (target (← file))
      let text (bare : Bool) : Reader Redirect := do
        let w ← file
        let (last, quoted) := Words.bareParts w.parts
        let last := String.ofList last
        let unended := (← get).unended.length
        let (body, line) ← takeText last bare
        let ended := (← get).unended.length = unended
        let parts ←
          if quoted then pure [.literal body]
          else Words.belowParts (commandsInside fuel) body line ended
        return .mk stream name (.text parts last quoted bare)
      if d = Dialect.extended then
        if ← sign? "&>>" then return ← leading (.all · true)
        else if ← sign? "&>" then return ← leading (.all · false)
        else if ← sign? "<<<" then return ← leading .line
      if ← sign? "<<-" then text true
      else if ← sign? "<<" then text false
      else if ← sign? "<&" then leading (.copy · false)
      else if ← sign? "<>" then leading .both
      else if ← sign? "<" then leading .read
      else if ← sign? ">>" then leading .append
      else if ← sign? ">&" then leading (.copy · true)
      else if ← sign? ">|" then leading (.write · true)
      else
        skip 1
        leading (.write · false)

/-- Read redirections one after the other. -/
def redirects : Nat → Reader (List Redirect)
  | 0 => fail [] false
  | fuel + 1 => do
      let before ← get
      blanks
      if atRedirect before.rules.dialect (← rest) then
        let r ← redirect fuel
        return r :: (← redirects fuel)
      else return []

/-- Read the items of a list, which begins on a line, up to its closing
    parenthesis. -/
def items : Nat → Nat → Reader (List Item)
  | 0, _ => fail [] false
  | fuel + 1, line => do
      lines
      if ← sign? ")" then return []
      else
        let cs ← rest
        let word : Reader Word := Words.word (commandsInside fuel) (.word false)
        match cs with
        | '[' :: inside =>
            match (afterBracket? none 0 inside).bind (giving? .extended) with
            | some adds =>
                skip 1
                let index ← Words.bracketed (commandsInside fuel)
                  (← Words.allowance)
                skip (if adds then 2 else 1)
                let w ← word
                return .mk (some index) adds w :: (← items fuel line)
            | none => itemsAfter fuel line (← word)
        | _ => itemsAfter fuel line (← word)

/-- Read the items of a list after the first one. -/
def itemsAfter : Nat → Nat → Word → Reader (List Item)
  | 0, _, _ => fail [] false
  | fuel + 1, line, w => do
      if w.source.isEmpty then
        if (← rest).isEmpty then unclosed line ")" "Missing ')'"
        else unexpected none true false
      else return .mk none false w :: (← items fuel line)

/-- Read a value: a word or a list. -/
def givenValue : Nat → Reader Word
  | 0 => fail [] false
  | fuel + 1 => do
      let start ← get
      match start.rules.dialect, start.rest with
      | .extended, '(' :: _ =>
          skip 1
          let all ← tryCatch (items fuel start.line) (fun f =>
            throw { f with inList := true })
          respell start (Listing.listText all)
          let source := between start (← get)
          return .mk [.list all source] source
      | _, _ =>
          Words.word (commandsInside fuel) (.word start.rules.patterns)

/-- Read an assignment. -/
def assignment : Nat → Reader Assignment
  | 0 => fail [] false
  | fuel + 1 => do
      let c ← get
      let (name, after) := nameAhead c.rest
      skip name.length
      let index ←
        match after with
        | '[' :: _ => do
            skip 1
            pure (some (← Words.bracketed (commandsInside fuel)
              (← Words.allowance)))
        | _ => pure none
      let adds := (giving? c.rules.dialect (← rest)).getD false
      skip (if adds then 2 else 1)
      return .mk name index adds (← givenValue fuel)

/-- Read the words, assignments and redirections of a simple command. -/
def simpleRest : Nat → Simple → Reader Simple
  | 0, _ => fail [] false
  | fuel + 1, s => do
      blanks
      let c ← get
      let d := c.rules.dialect
      let settled (line : Nat) : Simple :=
        if s.settled then s else { s with line := line, settled := true }
      if atRedirect d c.rest then
        let s := settled c.commandLine
        let r ← redirect fuel
        simpleRest fuel { s with redirects := r :: s.redirects }
      else
        let stops :=
          match c.rest with
          | [] => true
          | '<' :: '(' :: _ | '>' :: '(' :: _ => d = Dialect.plain
          | e :: _ => endsWord e
        if stops then
          match c.rest with
          | '\n' :: below =>
              return settled
                (c.listed.getD (c.line + (Cursor.dropTaken below).1))
          | _ => return settled c.commandLine
        else if ← mayStandIn then
          let _ ← standIn
          simpleRest fuel s
        else if s.words.isEmpty && atAssignment d c.rest then
          let a ← assignment fuel
          let s := settled (← get).commandLine
          simpleRest fuel { s with assignments := a :: s.assignments }
        else
          let declares :=
            d = Dialect.extended
              && (s.words.getLast?.map Word.source).any declaring.contains
          let name := (nameAhead c.rest).1
          let after := c.rest.drop name.length
          let list :=
            declares && !name.isEmpty
              && (match after with
                | '=' :: '(' :: _ | '+' :: '=' :: '(' :: _ => true
                | _ => false)
          if list then
            let size :=
              name.length + (if after.head? = some '=' then 1 else 2)
            skip size
            let value ← givenValue fuel
            let before := String.ofList (c.rest.take size)
            let w : Word :=
              .mk (.plain before :: value.parts) (before ++ value.source)
            let s := settled (← get).commandLine
            simpleRest fuel { s with words := w :: s.words }
          else
            let w ←
              Words.word (commandsInside fuel) (.word c.rules.patterns)
            let s := settled (← get).commandLine
            simpleRest fuel { s with words := w :: s.words }

/-- Read a simple command, or one that is given a name. -/
def simple : Nat → Reader Command
  | 0 => fail [] false
  | fuel + 1 => do
      let c ← get
      let d := c.rules.dialect
      let first : Option Word ←
        if atRedirect d c.rest || atAssignment d c.rest then pure none
        else do
          pure (some
            (← Words.word (commandsInside fuel) (.word c.rules.patterns)))
      let after ← get
      blanks
      match first, (← rest) with
      | some w, '(' :: _ =>
          if w.source.isEmpty then unexpected none true true
          else
            skip 1
            sign ")" false
            definition fuel c.commandLine w
      | _, _ =>
          set after
          let start : Simple :=
            match first with
            | some w =>
                { line := after.commandLine
                  settled := d = Dialect.plain
                  words := if w.source.isEmpty then [] else [w] }
            | none => { line := after.commandLine, settled := false }
          let s ← simpleRest fuel start
          if s.words.isEmpty && s.assignments.isEmpty && s.redirects.isEmpty
          then unexpected none true true
          else
            return .simple s.line s.assignments.reverse s.words.reverse
              s.redirects.reverse

/-- Read the command that is given a name. -/
def definition : Nat → Nat → Word → Reader Command
  | 0, _, _ => fail [] false
  | fuel + 1, line, w => do
      match ← dialect with
      | .plain =>
          if isName w.source && !specialNames.contains w.source then
            let start := (← get).line
            lines
            return .define line line w.source
              (onLine start (← command fuel))
          else fail [((← get).line, "Syntax error: Bad function name")] false
      | .extended =>
          lines
          let cs ← rest
          let compound :=
            cs.head? = some '('
              || ["\x7b", "if", "for", "case", "while", "until", "select",
                "[["].contains (bareWord cs)
          if compound then
            let before ← get
            let isGroup := bareWord cs = "\x7b"
            listLines (if isGroup then 1 else 2)
            modify (fun c => { c with defining := true })
            let start := (← get).commandLine
            let body ← command fuel
            listTexts
            listLines (if isGroup then 0 else 1)
            modify (fun c => { c with defining := before.defining })
            return .define line start w.source body
          else unexpected none true false

/-- Read a compound command with its redirections. -/
def directed : Nat → Nat → Reader Command → Reader Command
  | 0, _, _ => fail [] false
  | fuel + 1, line, r => do
      let c ← r
      match ← redirects fuel with
      | [] => return c
      | rs => return .redirected line c rs

/-- Read a command without operators. -/
def command : Nat → Reader Command
  | 0 => fail [] false
  | fuel + 1 => do
      blanks
      let c ← get
      let d := c.rules.dialect
      let compound (size : Nat) (r : Reader Command) : Reader Command := do
        skip size
        directed fuel c.commandLine (Words.deeper r)
      let parentheses : Reader Command :=
        compound 1 (do
          let body ← commands fuel false
          sign ")" true
          listTexts
          return .apart (← get).commandLine body)
      match c.rest with
      | '(' :: '(' :: _ =>
          if d = Dialect.plain then parentheses
          else
            skip 2
            let parts ← Words.quotedParts (commandsInside fuel)
              (← Words.allowance) (.arithmetic false) 0 []
            let stop ← get
            if ← sign? "))" then
              let source := between c.step.step stop
              let line := (← get).commandLine
              directed fuel line (pure (.calculate line parts source))
            else if stop.rest.isEmpty then unclosed c.line ")" ""
            else
              set c
              parentheses
      | '(' :: _ => parentheses
      | cs =>
          match bareWord cs with
          | "while" => compound 5 (loopRest fuel false)
          | "until" => compound 5 (loopRest fuel true)
          | "if" => compound 2 (choice fuel)
          | "for" => compound 3 (eachRest fuel c.commandLine false)
          | "case" => compound 4 (selection fuel c.commandLine)
          | "\x7b" =>
              compound 1 (do
                let ends := if c.defining then 1 else 0
                listLines ends
                let body ← commands fuel false
                keyword "\x7d"
                listTexts
                listLines ends
                return .group body)
          | w =>
              if closers.contains w || w = "!"
                  || w = "in" then
                unexpected none true true
              else if d = Dialect.extended && w = "[[" then
                compound 2 (do
                  let word := Words.word (commandsInside fuel)
                  let (t, line) ← Clause.read word fuel
                  return .check line t)
              else if d = Dialect.extended && w = "select" then
                compound 6 (eachRest fuel c.commandLine true)
              else if d = Dialect.extended && w = "function" then
                skip 8
                blanks
                let name ← Words.word (commandsInside fuel) (.word false)
                blanks
                if ← sign? "(" then sign ")" false
                definition fuel c.commandLine name
              else if ← standIn then command fuel
              else simple fuel

/-- Read the body of a loop between its two words. -/
def doneBody : Nat → Bool → Reader (List Command)
  | 0, _ => fail [] false
  | fuel + 1, braces => do
      lines
      let d ← dialect
      let braced ←
        if braces && d = Dialect.extended then keyword? "\x7b"
        else pure false
      unless braced do keyword "do"
      listLines (if braces then 2 else 1)
      let body ← commands fuel false
      keyword (if braced then "\x7d" else "done")
      listTexts
      listLines 1
      return body

/-- Read a loop after its first word. -/
def loopRest : Nat → Bool → Reader Command
  | 0, _ => fail [] false
  | fuel + 1, inverse => do
      let condition ← commands fuel false
      listTexts
      return .loop inverse condition (← doneBody fuel false)

/-- Read words up to the end of a list. -/
def wordList : Nat → Reader (List Word)
  | 0 => fail [] false
  | fuel + 1 => do
      blanks
      let c ← get
      if atRedirect c.rules.dialect c.rest then unexpected none true false
      else
        let w ← Words.word (commandsInside fuel) (.word c.rules.patterns)
        if w.source.isEmpty then return []
        else return w :: (← wordList fuel)

/-- Read the parts of a counting loop, up to two closing parentheses. -/
def countParts : Nat → Reader (List (List Part × String))
  | 0 => fail [] false
  | fuel + 1 => do
      let start ← get
      let parts ← Words.quotedParts (commandsInside fuel)
        (← Words.allowance) (.arithmetic true) 0 []
      let here := (parts, between start (← get))
      if ← sign? ";" then return here :: (← countParts fuel)
      else if (← rest).isEmpty then unclosed start.line ")" ""
      else
        sign "))" false
        return [here]

/-- Read a loop over fields, or a counting one, after its first word. -/
def eachRest : Nat → Nat → Bool → Reader Command
  | 0, _, _ => fail [] false
  | fuel + 1, line, asks => do
      blanks
      let start ← get
      let d := start.rules.dialect
      let counts :=
        d = Dialect.extended && beginsWith "((".toList start.rest
      if counts then
        skip 2
        let from_ ← get
        match ← countParts fuel with
        | [(first, s), (condition, t), (step, u)] =>
            blanks
            let _ ← sign? ";"
            return .count line first condition step [s, t, u]
              (← doneBody fuel true)
        | parts =>
            let found :=
              if parts.length < 3 then "arithmetic expression required"
              else "\x60;' unexpected"
            fail
              [(start.line, "syntax error: " ++ found),
                (start.line, "syntax error: \x60((" ++ between from_ (← get)
                  ++ "'")] false
      else
        let name ← Words.word (commandsInside fuel) (.word false)
        if d = Dialect.plain && !isName name.source then
          fail [(start.line, "Syntax error: Bad for loop variable")] false
        else if name.source.isEmpty then unexpected none false false
        else
          let name := name.source
          lines
          if ← keyword? "in" then
            let fields ← wordList fuel
            let ahead ← rest
            match ahead with
            | ';' :: ';' :: _ => unexpected none true false
            | ';' :: _ | '\n' :: _ =>
                skipUnlisted 1
                return .each line asks name (some fields)
                  (← doneBody fuel true)
            | _ => unexpected none true false
          else
            let _ ← sign? ";"
            return .each line asks name none (← doneBody fuel true)

/-- Read a choice after its first word, up to the word that ends it. -/
def choice : Nat → Reader Command
  | 0 => fail [] false
  | fuel + 1 => do
      let condition ← commands fuel false
      keyword "then"
      listTexts
      listLines 1
      let yes ← commands fuel false
      listTexts
      let no ←
        if ← keyword? "elif" then do
          listLines 2
          pure (some [← choice fuel])
        else if ← keyword? "else" then do
          listLines 2
          let no ← commands fuel false
          keyword "fi"
          pure (some no)
        else do
          keyword "fi"
          pure none
      listTexts
      listLines 1
      return .choose condition yes no

/-- Read a choice among patterns after its first word. -/
def selection : Nat → Nat → Reader Command
  | 0, _ => fail [] false
  | fuel + 1, line => do
      blanks
      let c ← get
      let w ← Words.word (commandsInside fuel) (.word c.rules.patterns)
      if w.source.isEmpty then unexpected (some "word") false false
      else
        let after := (← get).commandLine
        lines
        if ← keyword? "in" then
          let line := if c.rules.dialect = .plain then line else after
          return .select line w (← branches fuel)
        else unexpected (some (named "in")) true true

/-- Read patterns with their commands, up to the word that ends them. -/
def branches : Nat → Reader (List Branch)
  | 0 => fail [] false
  | fuel + 1 => do
      lines
      if ← keyword? "esac" then
        listLines 1
        return []
      else
        let _ ← sign? "("
        listLines 1
        let patterns ← alternatives fuel
        listLines 1
        let body ← commands fuel true
        listTexts
        listLines 1
        lines
        let d ← dialect
        let more (size : Nat) (ending : BranchEnd) : Reader (List Branch) := do
          skip size
          return .mk patterns body ending :: (← branches fuel)
        match d, (← rest) with
        | .extended, ';' :: ';' :: '&' :: _ => more 3 .goesOn
        | .extended, ';' :: '&' :: _ => more 2 .fallsThrough
        | _, ';' :: ';' :: _ => more 2 .stops
        | _, _ =>
            if ← keyword? "esac" then
              listLines 1
              return [.mk patterns body .stops]
            else unexpected (some (named ";;")) true true

/-- Read patterns up to a closing parenthesis. -/
def alternatives : Nat → Reader (List Word)
  | 0 => fail [] false
  | fuel + 1 => do
      blanks
      let c ← get
      let w ← Words.word (commandsInside fuel) (.word c.rules.patterns)
      let empty := w.source.isEmpty
      let d := c.rules.dialect
      if empty && d = Dialect.extended then unexpected none true false
      else
        match d, c.rest with
        | .plain, '|' :: _ | .plain, ')' :: _ => skip 1
        | _, _ => pure ()
        blanks
        match (← rest) with
        | '|' :: '|' :: _ => unexpected (some (named ")")) false false
        | '|' :: _ =>
            skip 1
            return w :: (← alternatives fuel)
        | _ =>
            sign ")" empty
            return [w]

/-- Read a command, or the opposite of one, and those that take its
    output; in the extended family, also one that is timed. -/
def pipeline : Nat → Reader Command
  | 0 => fail [] false
  | fuel + 1 => do
      blanks
      let d ← dialect
      let timed ← if d = Dialect.extended then keyword? "time" else pure false
      if timed then
        blanks
        let usual ← keyword? "-p"
        blanks
        let ended ← keyword? "--"
        let usual := usual || ended
        blanks
        if ends (← rest) then return .timed usual (.group [])
        else return .timed usual (← pipeline fuel)
      else if ← keyword? "!" then
        blanks
        let cs ← rest
        if d = Dialect.extended && ends cs then
          return .pipeline true [.group []]
        else
          if d = Dialect.plain && (Reader.bareWord cs) = "!" then
            unexpected none true true
          else
            return opposite (← pipeline fuel)
      else
        let first ← command fuel
        match ← pipes fuel first with
        | [c] => return c
        | all => return .pipeline false all

/-- Read the commands that take the output of one, with that one. -/
def pipes : Nat → Command → Reader (List Command)
  | 0, _ => fail [] false
  | fuel + 1, first => do
      blanks
      let c ← get
      let next (size : Nat) (first : Command) : Reader (List Command) := do
        skip size
        listTexts
        let line := (← get).line
        lines
        let second ← command fuel
        let second :=
          match c.rules.dialect with
          | .plain => onLine line second
          | .extended => second
        return first :: (← pipes fuel second)
      match c.rules.dialect, c.rest with
      | _, '|' :: '|' :: _ => return [first]
      | .extended, '|' :: '&' :: _ => next 2 (withErrors c.commandLine first)
      | _, '|' :: _ => next 1 first
      | _, _ => return [first]

/-- Read commands joined by conditions after the first one. -/
def conditions : Nat → Command → Reader Command
  | 0, _ => fail [] false
  | fuel + 1, c => do
      blanks
      if ← sign? "&&" then
        listTexts
        lines
        conditions fuel (.both c (← pipeline fuel))
      else if ← sign? "||" then
        listTexts
        lines
        conditions fuel (.either c (← pipeline fuel))
      else return c

/-- Read commands up to something that ends the list; there are some unless
    `mayEnd`. -/
def commands : Nat → Bool → Reader (List Command)
  | 0, _ => fail [] false
  | fuel + 1, mayEnd => do
      lines
      let c ← get
      let d := c.rules.dialect
      if (c.rest.isEmpty || mayEnd) && atClose d c.rest then return []
      else
        let first ← pipeline fuel
        let first ← conditions fuel first
        blanks
        let cs ← rest
        let more (breaks : Bool) (first : Command) :
            Reader (List Command) := do
          skipUnlisted 1
          lines
          let c ← get
          unless atClose d c.rest do
            listTexts
            listLines (if breaks then 1 else 0)
          return first :: (← commands fuel true)
        match cs with
        | ';' :: ';' :: _ => return [first]
        | ';' :: '&' :: _ =>
            if d = Dialect.extended then return [first] else more false first
        | ';' :: _ => more c.defining first
        | '\n' :: _ => more true first
        | '&' :: _ => more false (.aside first)
        | _ => return [first]

/-- Read the commands inside a word, up to what ends their list. -/
def commandsInside : Nat → Reader (List Command)
  | 0 => fail [] false
  | fuel + 1 => commands fuel true

end

/-- The fuel for what follows. -/
def supply : Reader Nat := do return 32 * (← rest).length + 128

/-- Read the commands up to the end of a line, after those before. -/
def lineFrom : Nat → List Command → Reader (List Command)
  | 0, _ => fail [] false
  | fuel + 1, before => do
      blanks
      match ← rest with
      | [] => return before.reverse
      | '\n' :: _ =>
          skip 1
          return before.reverse
      | _ =>
          let depth ← supply
          let first ← pipeline depth
          let first ← conditions depth first
          blanks
          match ← rest with
          | [] => return (first :: before).reverse
          | '\n' :: _ =>
              skip 1
              return (first :: before).reverse
          | ';' :: ';' :: _ => unexpected none true true
          | ';' :: '&' :: _ =>
              if (← dialect) = Dialect.extended then
                unexpected none true true
              else
                skip 1
                lineFrom fuel (first :: before)
          | ';' :: _ =>
              skip 1
              lineFrom fuel (first :: before)
          | '&' :: _ =>
              skip 1
              lineFrom fuel (.aside first :: before)
          | _ => unexpected none true true

/-- Read the commands up to the end of a line. -/
def line : Reader (List Command) := do
  lineFrom ((← rest).length + 1) []

end Reader
end NodeFlow.Shell
