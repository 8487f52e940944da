import NodeFlow.Shell.Listing
import NodeFlow.Shell.Quote
import NodeFlow.Shell.Reader

/-! # Reading words

    A word goes on up to a character that ends it.  Quotes, parameters,
    arithmetic and the output of commands are its parts.  How commands are
    read inside a word is a parameter here.

    Fuel bounds the length of a word together with the depth of what stands in
    it. -/

namespace NodeFlow.Shell

/-- What ends characters without quotes around them. -/
inductive Ending where
  /-- A character between words; parentheses after some signs belong to the
      word if `patterns`. -/
  | word (patterns : Bool)
  /-- A closing brace. -/
  | brace
  /-- A slash or a closing brace. -/
  | slash
  /-- A closing bracket. -/
  | bracket
  /-- A closing parenthesis. -/
  | group
  /-- A blank, outside of parentheses. -/
  | expression
  deriving DecidableEq, Repr

/-- Whether a character ends what is read, inside so many brackets. -/
def Ending.stops (e : Ending) (level : Nat) (c : Char) : Bool :=
  match e with
  | .word _ => endsWord c
  | .brace => c = '\x7d'
  | .slash => c = '\x7d' || c = '/'
  | .bracket => c = ']' && level = 0
  | .group => c = ')' && level = 0
  | .expression =>
      level = 0 && (isBlank c || c = '\n' || ";&<>)".toList.contains c)

/-- The number of open brackets after a character. -/
def Ending.levelAfter (e : Ending) (level : Nat) (c : Char) : Nat :=
  match e, c with
  | .bracket, '[' | .group, '(' | .expression, '(' => level + 1
  | .bracket, ']' | .group, ')' | .expression, ')' => level - 1
  | _, _ => level

/-- What ends characters with double quotes around them. -/
inductive QuotedEnding where
  /-- A double quote. -/
  | quote
  /-- The end of the text. -/
  | text
  /-- A closing brace. -/
  | brace
  /-- A closing parenthesis, or a semicolon if `parted`. -/
  | arithmetic (parted : Bool)
  /-- Two closing parentheses; quotes are characters like others. -/
  | parentheses
  /-- A single quote. -/
  | single
  /-- A closing bracket. -/
  | bracket
  deriving DecidableEq, Repr

/-- Whether characters end what is read, inside so many parentheses. -/
def QuotedEnding.stops (e : QuotedEnding) (level : Nat) (cs : List Char) :
    Bool :=
  match e, cs with
  | _, [] => true
  | .quote, c :: _ => c = '"'
  | .text, _ => false
  | .brace, c :: _ => c = '\x7d'
  | .arithmetic parted, c :: _ =>
      level = 0 && (c = ')' || (parted && c = ';'))
  | .parentheses, cs => level = 0 && beginsWith [')', ')'] cs
  | .single, c :: _ => c = '\''
  | .bracket, c :: _ => c = ']' && level = 0

/-- The number of open parentheses after a character. -/
def QuotedEnding.levelAfter (e : QuotedEnding) (level : Nat) (c : Char) :
    Nat :=
  match e, c with
  | .arithmetic _, '(' | .parentheses, '(' | .bracket, '[' => level + 1
  | .arithmetic _, ')' | .parentheses, ')' | .bracket, ']' => level - 1
  | _, _ => level

/-- Whether a backslash takes its meaning from a character. -/
def QuotedEnding.escapes (e : QuotedEnding) (c : Char) : Bool :=
  c = '$' || c = '\\' || c = '\x60' || (c = '"' && e != .text)
    || (c = '\x7d' && e = .brace)

/-- Whether what is read cannot end between single quotes, as far as the
    extended family goes. -/
def QuotedEnding.quotes : QuotedEnding → Bool
  | .arithmetic _ | .brace => true
  | _ => false

namespace Words

/-- Characters without quotes in front of parts; the characters are given the
    last one first. -/
def plainBefore (cs : List Char) (parts : List Part) : List Part :=
  if cs.isEmpty then parts
  else .plain (String.ofList cs.reverse) :: parts

/-- Characters with quotes in front of parts; the characters are given the
    last one first. -/
def literalBefore (cs : List Char) (parts : List Part) : List Part :=
  if cs.isEmpty then parts
  else .literal (String.ofList cs.reverse) :: parts

/-- Parts that are expanded together, as a text. -/
def together (whole : String) (parts : List Part) : List Part :=
  parts.map (fun p =>
    match p with
    | .param q indirect (.unknown needs _) source =>
        .param q indirect (.unknown needs whole) source
    | p => p)

/-- The characters that say what happens to the value of a parameter. -/
def operators : List Char := "%+=:^,/~".toList

/-- Characters without the backslashes in front of double quotes. -/
def bareQuotes : List Char → List Char
  | [] => []
  | [c] => [c]
  | c :: d :: rest =>
      if c = '\\' then
        if d = '"' then d :: bareQuotes rest else c :: d :: bareQuotes rest
      else c :: bareQuotes (d :: rest)

/-- Read parts that are expanded together. -/
def readTogether (r : Reader (List Part)) : Reader (List Part) := do
  let start ← get
  let parts ← r
  return together (Reader.between start (← get)) parts

/-- Go past the sign that the plain family finds after a parameter; a line end
    is not counted there. -/
def overSign : Reader Unit :=
  modify (fun c =>
    match c.rules.dialect with
    | .plain => { c.step with line := c.line }
    | .extended => c)

/-- Read up to a single quote. -/
def upToQuote (line : Nat) : Reader String := do
  let cs ← Reader.rest
  let text := cs.takeWhile (fun c => c != '\'')
  if text.length = cs.length then
    Reader.unclosed line "'" "Unterminated quoted string"
  else
    Reader.skip (text.length + 1)
    return String.ofList (text.filter (fun c => c != takenLine))

/-- The characters up to a backquote that is not escaped, and how many they
    are with what escapes them.  Between double quotes, a backslash escapes
    these, too. -/
def upToBackquote? (quoted : Bool) : List Char → Option (List Char × Nat)
  | [] => none
  | '\x60' :: _ => some ([], 0)
  | '\\' :: c :: rest =>
      (upToBackquote? quoted rest).map (fun (a, n) =>
        (if c = '\x60' || c = '\\' || c = '$' || (quoted && c = '"') then
          (c :: a, n + 2)
        else ('\\' :: c :: a, n + 2)))
  | c :: rest =>
      (upToBackquote? quoted rest).map (fun (a, n) => (c :: a, n + 1))

/-- So many hexadecimal digits of a number, in upper case. -/
def hexDigits (size n : Nat) : List Char :=
  let ds := (Nat.toDigits 16 n).map Char.toUpper
  List.replicate (size - ds.length) '0' ++ ds

/-- The octets of a character by its number; where it is not one glyph, its
    number as an escape. -/
def numbered (e : Encoding) (n : Nat) : List Char :=
  if n < 0x80 then [Char.ofNat n]
  else if e = .several && n < 0x110000 && !(0xD800 ≤ n && n < 0xE000) then
    Octets.ofChar (Char.ofNat n)
  else if n < 0x10000 then '\\' :: 'u' :: hexDigits 4 n
  else '\\' :: 'U' :: hexDigits 8 n

/-- The characters that an escape stands for after its backslash, and how many
    characters it has. -/
def escaped (e : Encoding) (cs : List Char) : List Char × Nat :=
  let digits (n : Nat) (is : Char → Bool) (cs : List Char) : List Char :=
    (cs.take n).takeWhile is
  match cs with
  | 'a' :: _ => ([Char.ofNat 7], 1)
  | 'b' :: _ => ([Char.ofNat 8], 1)
  | 'e' :: _ | 'E' :: _ => ([Char.ofNat 27], 1)
  | 'f' :: _ => ([Char.ofNat 12], 1)
  | 'n' :: _ => (['\n'], 1)
  | 'r' :: _ => (['\r'], 1)
  | 't' :: _ => (['\t'], 1)
  | 'v' :: _ => ([Char.ofNat 11], 1)
  | '\\' :: _ => (['\\'], 1)
  | '\'' :: _ => (['\''], 1)
  | '"' :: _ => (['"'], 1)
  | '?' :: _ => (['?'], 1)
  | 'x' :: rest =>
      let ds := digits 2 isHex rest
      if ds.isEmpty then (['\\', 'x'], 1)
      else ([Char.ofNat (hexValue ds)], ds.length + 1)
  | 'u' :: rest =>
      let ds := digits 4 isHex rest
      if ds.isEmpty then (['\\', 'u'], 1)
      else (numbered e (hexValue ds), ds.length + 1)
  | 'U' :: rest =>
      let ds := digits 8 isHex rest
      if ds.isEmpty then (['\\', 'U'], 1)
      else (numbered e (hexValue ds), ds.length + 1)
  | 'c' :: c :: _ => ([Char.ofNat (c.toUpper.toNat.xor 64 % 128)], 2)
  | c :: rest =>
      if isOctal c then
        let ds := digits 3 isOctal (c :: rest)
        ([Char.ofNat (octalValue ds % 256)], ds.length)
      else (['\\', c], 1)
  | [] => (['\\'], 0)

/-- The characters of a text with escapes up to a single quote, and how many
    characters were read.  The first `skip` belong to an escape. -/
def escapedText (e : Encoding) : Nat → List Char → Option (List Char × Nat)
  | _, [] => none
  | skip + 1, _ :: rest =>
      (escapedText e skip rest).map (fun (t, n) => (t, n + 1))
  | 0, '\'' :: _ => some ([], 1)
  | 0, '\\' :: rest =>
      let (shown, taken) := escaped e rest
      (escapedText e taken rest).map (fun (t, n) => (shown ++ t, n + 1))
  | 0, c :: rest => (escapedText e 0 rest).map (fun (t, n) => (c :: t, n + 1))

/-- The parts before and after the first colon without quotes that belongs to
    no choice. -/
def splitAtColon (choices : Nat) : List Part → List Part × Option (List Part)
  | [] => ([], none)
  | .literal s :: rest =>
      let cs := s.toList
      let rec find (choices : Nat) (before : List Char) :
          List Char → Option (List Char × List Char) ⊕ Nat
        | [] => .inr choices
        | '?' :: more => find (choices + 1) ('?' :: before) more
        | ':' :: more =>
            if choices = 0 then .inl (some (before.reverse, more))
            else find (choices - 1) (':' :: before) more
        | c :: more => find choices (c :: before) more
      match find choices [] cs with
      | .inl (some (before, after)) =>
          ([.literal (String.ofList before)],
            some (.literal (String.ofList after) :: rest))
      | .inl none => (.literal s :: rest, none)
      | .inr choices =>
          let (a, b) := splitAtColon choices rest
          (.literal s :: a, b)
  | p :: rest =>
      let (a, b) := splitAtColon choices rest
      (p :: a, b)

/-- Whether a sign is a parameter of its own. -/
def isSign (c : Char) : Bool :=
  c = '?' || c = '$' || c = '#' || c = '@' || c = '*' || c = '!' || c = '-'

/-- Read a text of its own. -/
def onText {α : Type} (text : String) (line : Nat) (r : Reader α) :
    Reader α := do
  let c ← get
  set { c with rest := text.toList, lineStart := text.toList, line := line }
  let v ← r
  let after ← get
  set { c with unended := after.unended }
  return v

/-- Go one level deeper.  A snippet that is nested too deeply is none. -/
def deeper {α : Type} (r : Reader α) : Reader α := do
  let c ← get
  if c.depth = 0 then Reader.fail [(c.line, "nesting too deep")] false
  else
    set { c with depth := c.depth - 1 }
    let v ← r
    modify (fun c => { c with depth := c.depth + 1 })
    return v

variable (commands : Reader (List Command))

/-- Read something whose lines have numbers of their own. -/
def apart {α : Type} (r : Reader α) : Reader α := do
  let c ← get
  let above := c.line - 1
  set { c with
    line := 1
    lineStart := if c.inText then c.rest else c.lineStart
    listed := if c.inText then none else some 1
    textLines := 0
    defining := false
    inText := false }
  let v ← tryCatch r (fun e =>
    throw { e with
      complaints := e.complaints.map (fun (n, text) => (n + above, text))
      above := some above })
  modify (fun after =>
    let added := (after.unended.drop c.unended.length).map (fun u =>
      { u with line := u.line + above, lastLine := u.lastLine + above })
    let within := after.listed.getD 1 + after.textLines - 1
    { after with
      line := after.line + above
      unended := c.unended ++ added
      listed := c.listed.map (· + within)
      textLines := c.textLines
      defining := c.defining
      inText := c.inText })
  return v

/-- The commands between parentheses after the opening one. -/
def nestedCommands : Reader (List Command) := do
  let d ← Reader.dialect
  let unfinished : Reader (List Command) := do
    Reader.fail [(Reader.lineBelow (← get),
      "unexpected EOF while looking for matching `)'")] true
  let guarded : Reader (List Command) :=
    match d with
    | .plain => commands
    | .extended =>
        tryCatch commands
          (fun e =>
            if e.isOpen then throw e
            else if e.early then unfinished
            else throw { e with within := true })
  let body ← guarded
  Reader.lines
  if ← Reader.sign? ")" then return body
  else
    match d, (← Reader.rest) with
    | .extended, [] => unfinished
    | .extended, _ =>
        tryCatch
          (Reader.unexpected (some (Reader.named ")")) true true)
          (fun e => throw { e with within := true })
    | .plain, _ => Reader.unexpected (some (Reader.named ")")) true true

/-- Show commands that have been read from a place on, after a sign, in the way
    the extended family lists them.  Those on several lines are left as they
    are. -/
def relist (start : Cursor) (sign : String) (body : List Command) :
    Reader Unit := do
  let c ← get
  let raw := start.rest.take (c.place - start.place)
  if c.rules.dialect = .extended && !raw.contains '\n' then
    Reader.respell start (Listing.nested sign body)

/-- The commands inside a word, between parentheses after the opening one. -/
def innerCommands : Reader (List Command) := do
  match ← Reader.dialect with
  | .plain => deeper (nestedCommands commands)
  | .extended => apart (deeper (nestedCommands commands))

mutual

/-- Read characters without quotes around them, with what stands between them;
    `before` has been read, the last character first. -/
def plainParts : Nat → Ending → Nat → List Char → Reader (List Part)
  | 0, _, _, _ => Reader.fail [] false
  | fuel + 1, e, level, before => do
      let c ← get
      match c.rest with
      | [] => return plainBefore before []
      | '\\' :: '\n' :: _ =>
          Reader.skipUnlisted 2
          Reader.respell c ""
          plainParts fuel e level before
      | ['\\'] =>
          Reader.skip 1
          plainParts fuel e level ('\\' :: before)
      | '\\' :: d :: _ =>
          Reader.skip 2
          let more ← plainParts fuel e level []
          return plainBefore before (.literal (String.singleton d) :: more)
      | d :: after =>
          let opens :=
            match e, after with
            | .word true, '(' :: _ => "?*+@!".toList.contains d
            | _, _ => false
          let channel :=
            match e, after with
            | .word _, '(' :: _ =>
                c.rules.dialect = Dialect.extended && (d = '<' || d = '>')
            | _, _ => false
          if opens then
            Reader.skip 2
            let inner ← plainParts fuel .group 0 []
            if ← Reader.sign? ")" then
              let more ← plainParts fuel e level []
              return plainBefore ('(' :: d :: before)
                (inner ++ .plain ")" :: more)
            else Reader.unclosed c.line ")" "Missing ')'"
          else if channel then
            Reader.skip 2
            let body ← innerCommands commands
            relist c (String.singleton d) body
            let source := Reader.between c (← get)
            let more ← plainParts fuel e level []
            return plainBefore before (.channel (d = '>') body source :: more)
          else if e.stops level d then return plainBefore before []
          else
            match d with
            | '\'' =>
                Reader.skip 1
                let text ← upToQuote c.line
                let more ← plainParts fuel e level []
                return plainBefore before (.literal text :: more)
            | '"' =>
                Reader.skip 1
                let part ← doubleQuoted fuel c.line
                let more ← plainParts fuel e level []
                return plainBefore before (part :: more)
            | '\x60' =>
                let part ← backquoted fuel false
                let more ← plainParts fuel e level []
                return plainBefore before (part :: more)
            | '$' =>
                match ← dollar fuel false with
                | some part =>
                    let more ← plainParts fuel e level []
                    return plainBefore before (part :: more)
                | none =>
                    Reader.skip 1
                    plainParts fuel e level ('$' :: before)
            | d =>
                Reader.skip 1
                plainParts fuel e (e.levelAfter level d) (d :: before)

/-- Read characters with double quotes around them, with what stands between
    them; `before` has been read, the last character first. -/
def quotedParts : Nat → QuotedEnding → Nat → List Char → Reader (List Part)
  | 0, _, _, _ => Reader.fail [] false
  | fuel + 1, e, level, before => do
      let cs ← Reader.rest
      if e.stops level cs then return literalBefore before []
      else
        match cs with
        | [] => return literalBefore before []
        | '\\' :: '\n' :: _ =>
            let c ← get
            Reader.skipUnlisted 2
            Reader.respell c ""
            quotedParts fuel e level before
        | '\\' :: d :: _ =>
            Reader.skip 2
            quotedParts fuel e level
              (if e.escapes d then d :: before else d :: '\\' :: before)
        | '\x60' :: _ =>
            let part ← backquoted fuel (e != .text)
            let more ← quotedParts fuel e level []
            return literalBefore before (part :: more)
        | '$' :: _ =>
            match ← dollar fuel true with
            | some part =>
                let more ← quotedParts fuel e level []
                return literalBefore before (part :: more)
            | none =>
                Reader.skip 1
                quotedParts fuel e level ('$' :: before)
        | '"' :: _ =>
            if e = .text || e = .parentheses then
              Reader.skip 1
              quotedParts fuel e level ('"' :: before)
            else if e = .single then
              Reader.skip 1
              quotedParts fuel e level before
            else
              let line := (← get).line
              Reader.skip 1
              let part ← doubleQuoted fuel line
              let more ← quotedParts fuel e level []
              return literalBefore before (part :: more)
        | '\'' :: _ =>
            let line := (← get).line
            Reader.skip 1
            if e.quotes && (← Reader.dialect) = .extended then
              let inner ← quotedParts fuel .single 0 ('\'' :: before)
              if ← Reader.sign? "'" then
                let more ← quotedParts fuel e level ['\'']
                return inner ++ more
              else Reader.unclosed line "'" ""
            else quotedParts fuel e level ('\'' :: before)
        | d :: _ =>
            Reader.skip 1
            quotedParts fuel e (e.levelAfter level d) (d :: before)

/-- Read up to a double quote. -/
def doubleQuoted : Nat → Nat → Reader Part
  | 0, _ => Reader.fail [] false
  | fuel + 1, line => do
      let start ← get
      let parts ← quotedParts fuel .quote 0 []
      let shown := bareQuotes (Reader.between start (← get)).toList
      let parts := together (String.ofList shown) parts
      if ← Reader.sign? "\"" then return .quoted parts
      else Reader.unclosed line "\"" "Unterminated quoted string"

/-- Read commands between backquotes. -/
def backquoted : Nat → Bool → Reader Part
  | 0, _ => Reader.fail [] false
  | _ + 1, quoted => do
      let start ← get
      match upToBackquote? quoted start.rest.tail with
      | none =>
          Reader.unclosed start.line "\x60" "EOF in backquote substitution"
      | some (code, size) =>
          Reader.skip (size + 2)
          let code :=
            String.ofList (code.filter (fun c => c != takenLine))
          let source := Reader.between start (← get)
          match start.rules.dialect with
          | .plain => do
              let body ← onText code 1 (deeper commands)
              return .output body source
          | .extended => return .unread code source

/-- Read what a dollar sign begins; nothing if it stands for itself. -/
def dollar : Nat → Bool → Reader (Option Part)
  | 0, _ => Reader.fail [] false
  | fuel + 1, quoted => do
      let start ← get
      let extended := start.rules.dialect = Dialect.extended
      let after := start.rest.tail
      let shown (p : Parameter) (size : Nat) : Reader (Option Part) := do
        Reader.skip (size + 1)
        return some (.param p false .value (Reader.between start (← get)))
      match after with
      | '\x7b' :: _ =>
          Reader.skip 2
          return some (← braced fuel quoted start)
      | '(' :: '(' :: _ =>
          return some (← calculation fuel start)
      | '(' :: _ =>
          Reader.skip 2
          let body ← innerCommands commands
          relist start "$" body
          return some (.output body (Reader.between start (← get)))
      | '[' :: _ =>
          if extended then
            Reader.skip 2
            let parts ← readTogether (quotedParts fuel .bracket 0 [])
            if ← Reader.sign? "]" then
              return some (.arithmetic parts (Reader.between start (← get)))
            else Reader.unclosed start.line "]" ""
          else return none
      | '\'' :: text =>
          if extended && !quoted then
            match escapedText start.rules.encoding 0 text with
            | some (shown, size) =>
                Reader.skip (size + 2)
                let text := String.ofList
                  (shown.takeWhile (fun c => c.toNat != 0))
                Reader.respell start (Quote.single text)
                return some (.literal text)
            | none => Reader.unclosed start.line "'" ""
          else return none
      | '"' :: _ =>
          if extended && !quoted then
            Reader.skip 1
            Reader.respell start ""
            Reader.skip 1
            return some (← doubleQuoted fuel start.line)
          else return none
      | c :: _ =>
          if startsName c then
            let (name, _) := nameAhead after
            shown (.named name) name.length
          else if c.isDigit then shown (.place (c.toNat - '0'.toNat)) 1
          else if isSign c then shown (.sign c) 1
          else return none
      | [] => return none

/-- Read arithmetic after a dollar sign.  In the extended family, what ends
    with one parenthesis less are commands that have not been read. -/
def calculation : Nat → Cursor → Reader Part
  | 0, _ => Reader.fail [] false
  | fuel + 1, start => do
      Reader.skip 3
      let ending : QuotedEnding :=
        match start.rules.dialect with
        | .plain => .parentheses
        | .extended => .arithmetic false
      let parts ← readTogether (quotedParts fuel ending 0 [])
      if ← Reader.sign? "))" then
        return .arithmetic parts (Reader.between start (← get))
      else if start.rules.dialect = .plain then
        Reader.unclosed start.line ")" "Missing '))'"
      else
        set start
        Reader.skip 2
        let opened ← get
        let _ ← quotedParts fuel (.arithmetic false) 0 []
        let code := Reader.between opened (← get)
        if ← Reader.sign? ")" then
          return .unread code (Reader.between start (← get))
        else Reader.unclosed start.line ")" ""

/-- Read the name of a parameter, if there is one. -/
def parameter? : Nat → Reader (Option Parameter)
  | 0 => Reader.fail [] false
  | fuel + 1 => do
      let c ← get
      match c.rest with
      | [] => return none
      | d :: _ =>
          if startsName d then
            let (name, after) := nameAhead c.rest
            Reader.skip name.length
            match c.rules.dialect, after with
            | .extended, '[' :: '@' :: ']' :: _ =>
                Reader.skip 3
                return some (.items name false)
            | .extended, '[' :: '*' :: ']' :: _ =>
                Reader.skip 3
                return some (.items name true)
            | .extended, '[' :: _ =>
                Reader.skip 1
                return some (.item name (← bracketed fuel))
            | _, _ => return some (.named name)
          else if d.isDigit then
            let ds := c.rest.takeWhile Char.isDigit
            Reader.skip ds.length
            return some (.place (decimalValue ds))
          else if isSign d then
            Reader.skip 1
            return some (.sign d)
          else return none

/-- Read a word up to a closing bracket. -/
def bracketed : Nat → Reader Word
  | 0 => Reader.fail [] false
  | fuel + 1 => do
      let start ← get
      let parts ← plainParts fuel .bracket 0 []
      let source := Reader.between start (← get)
      if ← Reader.sign? "]" then return .mk parts source
      else Reader.unclosedAs "" start.line "]" "Missing ']'"

/-- Read a parameter after its opening brace. -/
def braced : Nat → Bool → Cursor → Reader Part
  | 0, _, _ => Reader.fail [] false
  | fuel + 1, quoted, start => do
      let inside ← get
      let done (p : Parameter) (indirect : Bool) (change : Change) :
          Reader Part := do
        if ← Reader.sign? "\x7d" then
          return .param p indirect change (Reader.between start (← get))
        else
          let missing :=
            match start.rules.dialect, change with
            | _, .value | _, .size | .extended, .unknown false _ => ""
            | _, _ => "\x7d"
          Reader.unclosedAs missing start.line "\x7d"
            (if quoted && !start.inText then "Unterminated quoted string"
            else "Missing '\x7d'")
      let changed (p : Parameter) (indirect : Bool) : Reader Part := do
        match p, (← changeOf fuel quoted) with
        | .sign '?', .recase _ _ _ | .sign '#', .recase _ _ _
        | .sign '-', .recase _ _ _ => done p indirect (.unknown false "")
        | p, c => done p indirect c
      let closes : Reader Bool := do
        return (← Reader.rest).head? = some '\x7d'
      let ordinary : Reader Part := do
        set inside
        match ← parameter? fuel with
        | some p => changed p false
        | none =>
            unless ← closes do overSign
            let _ ← quotedParts fuel .brace 0 []
            done (.sign '?') false (.unknown false "")
      match inside.rest with
      | '#' :: _ =>
          Reader.skip 1
          match ← parameter? fuel, (← Reader.rest) with
          | some p, _ => if ← closes then done p false .size else ordinary
          | none, c :: '\x7d' :: _ =>
              if operators.contains c then
                Reader.skip 1
                done (.sign '#') false (.unknown false "")
              else ordinary
          | none, _ => ordinary
      | '!' :: next :: _ =>
          if inside.rules.dialect = .plain
              || !(startsName next || next.isDigit || "#?@*".toList.contains next)
          then ordinary
          else
            Reader.skip 1
            match ← parameter? fuel with
            | none => ordinary
            | some p =>
                match p, (← Reader.rest) with
                | .items name joined, '\x7d' :: _ =>
                    Reader.skip 1
                    return .places name joined
                | .named name, '@' :: '\x7d' :: _ =>
                    Reader.skip 2
                    return .names name false
                | .named name, '*' :: '\x7d' :: _ =>
                    Reader.skip 2
                    return .names name true
                | p, _ => changed p true
      | _ => ordinary

/-- Read what happens to the value of a parameter. -/
def changeOf : Nat → Bool → Reader Change
  | 0, _ => Reader.fail [] false
  | fuel + 1, quoted => do
      let c ← get
      let extended := c.rules.dialect = Dialect.extended
      let word : Reader (List Part) :=
        readTogether
          (if quoted then quotedParts fuel .brace 0 []
          else plainParts fuel .brace 0 [])
      let pattern : Reader (List Part) :=
        readTogether (plainParts fuel .brace 0 [])
      let substitution (how : Substitution) (orEmpty : Bool) :
          Reader Change := do
        Reader.skip (if orEmpty then 2 else 1)
        return .substitute how orEmpty (← word)
      let trimming (size : Nat) (atEnd longest : Bool) : Reader Change := do
        Reader.skip size
        return .trim atEnd longest (← pattern)
      let recasing (size : Nat) (how : Recase) (all : Bool) :
          Reader Change := do
        Reader.skip size
        return .recase how all (← pattern)
      let unknown : Reader Change := do
        overSign
        let _ ← quotedParts fuel .brace 0 []
        return .unknown false ""
      match c.rest with
      | '\x7d' :: _ | [] => return .value
      | ':' :: '\x7d' :: _ =>
          unless extended do Reader.skip 1
          unknown
      | ':' :: '-' :: _ => substitution .whenAbsent true
      | ':' :: '=' :: _ => substitution .assigned true
      | ':' :: '+' :: _ => substitution .whenPresent true
      | ':' :: '?' :: _ => substitution .demanded true
      | '-' :: _ => substitution .whenAbsent false
      | '=' :: _ => substitution .assigned false
      | '+' :: _ => substitution .whenPresent false
      | '?' :: _ => substitution .demanded false
      | '#' :: '#' :: _ => trimming 2 false true
      | '#' :: _ => trimming 1 false false
      | '%' :: '%' :: _ => trimming 2 true true
      | '%' :: _ => trimming 1 true false
      | rest =>
          if !extended then
            if rest.head? = some ':' then Reader.skip 1
            unknown
          else
            match rest with
            | ':' :: _ =>
                Reader.skip 1
                let parts ← readTogether (quotedParts fuel .brace 0 [])
                let (start, size) := splitAtColon 0 parts
                return .slice start size
            | '/' :: '/' :: _ => replacement fuel 2 .every
            | '/' :: '#' :: _ => replacement fuel 2 .atStart
            | '/' :: '%' :: _ => replacement fuel 2 .atEnd
            | '/' :: _ => replacement fuel 1 .first
            | '^' :: '^' :: _ => recasing 2 .upper true
            | '^' :: _ => recasing 1 .upper false
            | ',' :: ',' :: _ => recasing 2 .lower true
            | ',' :: _ => recasing 1 .lower false
            | '~' :: '~' :: _ => recasing 2 .other true
            | '~' :: _ => recasing 1 .other false
            | '@' :: more =>
                let _ ← quotedParts fuel .brace 0 []
                return match more with
                  | letter :: '\x7d' :: _ =>
                      if "UuLQEPAKak".toList.contains letter then .shown letter
                      else .unknown true ""
                  | _ => .unknown true ""
            | _ => unknown

/-- Read a pattern and what replaces its matches, after so many
    characters. -/
def replacement : Nat → Nat → Occurrence → Reader Change
  | 0, _, _ => Reader.fail [] false
  | fuel + 1, size, which => do
      Reader.skip size
      let pattern ← readTogether (plainParts fuel .slash 0 [])
      if ← Reader.sign? "/" then
        let by_ ← readTogether (plainParts fuel .brace 0 [])
        return .replace which pattern by_
      else return .replace which pattern []

end

/-- The fuel for a word in what follows. -/
def allowance : Reader Nat := do return 8 * (← Reader.rest).length + 64

/-- Read a word, which may be empty. -/
def word (e : Ending) : Reader Word := do
  let start ← get
  let parts ← plainParts commands (← allowance) e 0 []
  let source := Reader.between start (← get)
  return .mk (together source parts) source

/-- The characters of parts without quotes, and whether any of them was
    quoted. -/
def bareParts : List Part → List Char × Bool
  | [] => ([], false)
  | part :: rest =>
      let (more, quoted) := bareParts rest
      match part with
      | .plain s => (s.toList ++ more, quoted)
      | .literal s => (s.toList ++ more, true)
      | .quoted parts =>
          ((parts.flatMap (fun p =>
            match p with
            | .literal s => s.toList
            | _ => [])) ++ more, true)
      | .param _ _ _ source | .arithmetic _ source | .output _ source
      | .unread _ source => (source.toList ++ more, quoted)
      | _ => (more, quoted)

/-- The parts of a text that a command reads. -/
def textParts (text : String) (line : Nat) : Reader (List Part) :=
  onText text line (do
    modify (fun c => { c with inText := true })
    readTogether (quotedParts commands (← allowance) .text 0 []))

/-- What is said of a text below a command that cannot be read, each time with
    the number of a line among commands in the text. -/
def textComplaints (text : String) (f : SyntaxFault) :
    List (Option Nat × String) :=
  let unclosed (sign part : String) : List (Option Nat × String) :=
    [(none, "bad substitution: no closing " ++ sign ++ " in " ++ part)]
  match f.above, f.missing with
  | some above, _ => f.complaints.map (fun (n, s) => (some (n - above), s))
  | none, "" => [(none, text ++ ": bad substitution")]
  | none, "\x60" =>
      unclosed "\"\x60\""
        ("\x60" ++ (text.splitOn "\x60").getLastD "")
  | none, sign =>
      unclosed ("\x60" ++ (if sign = "\"" then "\x7d" else sign) ++ "'") text

/-- The parts of a text below a command; `ended` tells whether something stands
    behind it.  The extended family reads it only when the command is run. -/
def belowParts (text : String) (line : Nat) (ended : Bool) :
    Reader (List Part) := do
  let before ← get
  tryCatch (textParts commands text line) (fun f =>
    match before.rules.dialect with
    | .plain =>
        let beyond := f.early && (!f.isOpen || f.missing != "")
        let further := if ended && beyond then 1 else 0
        throw { f with
          complaints := f.complaints.map (fun (n, s) => (n + further, s)) }
    | .extended => do
        set before
        return [.faulty (textComplaints text f) text])

end Words
end NodeFlow.Shell
