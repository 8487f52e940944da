import NodeFlow.Shell.Command

/-! # Listing commands

    The extended family lists what its functions do, one command to a line,
    with deeper lines for what is inside.  A text for a command stands below
    the line on which the command is listed.  Commands outside of functions
    are listed one behind the other. -/

namespace NodeFlow.Shell

namespace Listing

/-- How far a listing has come. -/
structure Sheet where
  /-- What has been written, the last character first. -/
  written : List Char := []
  /-- The blanks in front of a line. -/
  depth : Nat := 0
  /-- How many commands go on where the line is. -/
  joined : Nat := 0
  /-- The texts for commands that stand below this line. -/
  below : List String := []
  /-- Whether a text has just been written. -/
  afterText : Bool := false
  /-- How many commands that are joined are around. -/
  joints : Nat := 0
  /-- Whether commands have lines of their own. -/
  onLines : Bool := false

/-- Something that is listed. -/
abbrev Lister : Type := StateM Sheet Unit

/-- Write characters. -/
def put (s : String) : Lister :=
  modify (fun t => { t with written := s.toList.reverse ++ t.written })

/-- Write the blanks in front of a line. -/
def indent : Lister := do
  put (String.ofList (List.replicate (← get).depth ' '))

/-- Begin a line. -/
def newLine (s : String) : Lister := do
  put "\n"
  indent
  put s

/-- Write a semicolon, unless what is there needs none. -/
def semicolon : Lister := do
  match (← get).written with
  | '&' :: _ | '\n' :: _ => return ()
  | _ => put ";"

/-- List something deeper. -/
def deeper (l : Lister) : Lister := do
  modify (fun t => { t with depth := t.depth + 4 })
  l
  modify (fun t => { t with depth := t.depth - 4 })

/-- Let the next command go on where the line is. -/
def join : Lister := modify (fun t => { t with joined := t.joined + 1 })

/-- Begin a command. -/
def begins : Lister := do
  let t ← get
  if t.joined = 0 then indent else set { t with joined := t.joined - 1 }

/-- Write the texts that stand below. -/
def putTexts (texts : List String) : Lister := do
  unless texts.isEmpty do
    put "\n"
    for text in texts do put text
    modify (fun t => { t with afterText := true })

/-- Write what joins two commands, with the texts that stand below. -/
def flush (sign : String) : Lister := do
  let spoken := !sign.isEmpty && sign != ";"
  if spoken then put sign
  let t ← get
  unless t.below.isEmpty do
    putTexts t.below
    if spoken then put " "
    modify (fun t => { t with below := [] })

/-! ## Parts of commands -/

/-- The items of a list between parentheses. -/
def listText (items : List Item) : String :=
  let texts := items.map (fun item =>
    match item with
    | .mk none _ value => value.source
    | .mk (some index) adds value =>
        "[" ++ index.source ++ "]" ++ (if adds then "+=" else "=")
          ++ value.source)
  "(" ++ " ".intercalate texts ++ ")"

/-- An assignment as it was written. -/
def assignmentText : Assignment → String
  | .mk name index adds value =>
      name ++ (match index with
        | some i => "[" ++ i.source ++ "]"
        | none => "") ++ (if adds then "+=" else "=") ++ value.source

/-- The words of a simple command. -/
def wordsText (assignments : List Assignment) (words : List Word) : String :=
  " ".intercalate (assignments.map assignmentText ++ words.map Word.source)

/-- A redirection without the text that stands below. -/
def redirectText : Redirect → String
  | .mk stream name target =>
      let stream' (usual : Nat) : String :=
        match name, stream with
        | some n, _ => "\x7b" ++ n ++ "\x7d"
        | none, some n => if n = usual then "" else toString n
        | none, none => ""
      let exact (usual : Nat) : String :=
        match name, stream with
        | some n, _ => "\x7b" ++ n ++ "\x7d"
        | none, some n => toString n
        | none, none => toString usual
      match target with
      | .write w forced => stream' 1 ++ (if forced then ">| " else "> ") ++ w.source
      | .append w => stream' 1 ++ ">> " ++ w.source
      | .read w => stream' 0 ++ "< " ++ w.source
      | .both w => exact 0 ++ "<> " ++ w.source
      | .all w atEnd => (if atEnd then "&>> " else "&> ") ++ w.source
      | .line w => stream' 0 ++ "<<< " ++ w.source
      | .copy w output =>
          let sign := if output then ">&" else "<&"
          let usual := if output then 1 else 0
          if w.source = "-" then exact usual ++ ">&-"
          else if isNumber ((w.source.dropSuffix "-").toString) then
            exact usual ++ sign ++ w.source
          else if output && (stream = none || stream = some 1) then
            "&> " ++ w.source
          else stream' usual ++ sign ++ w.source
      | .text _ last quoted bare =>
          stream' 0 ++ (if bare then "<<-" else "<<")
            ++ (if quoted then "'" ++ last ++ "'" else last)

/-- The text that stands below a redirection, with the word after it. -/
def textBelow? : Redirect → Option String
  | .mk _ _ (.text parts last _ _) =>
      some (String.join (parts.map source) ++ last ++ "\n")
  | _ => none
where
  /-- A part of a text as it was written. -/
  source : Part → String
    | .plain s | .literal s => s
    | .param _ _ _ s | .arithmetic _ s | .output _ s | .unread _ s
    | .channel _ _ s | .list _ s | .faulty _ s => s
    | .quoted _ | .names _ _ | .places _ _ => ""

/-- List redirections. -/
def redirects (rs : List Redirect) : Lister := do
  put (" ".intercalate (rs.map redirectText))
  modify (fun t => { t with afterText := false })
  let texts := rs.filterMap textBelow?
  unless texts.isEmpty do
    if 0 < (← get).joints then modify (fun t => { t with below := texts })
    else putTexts texts

/-- An extended condition. -/
def testText : Test → String
  | .word w => "-n " ++ w.source
  | .unary op w => op ++ " " ++ w.source
  | .binary a c b =>
      let sign :=
        match c with
        | .fits op | .operator op => op
        | .matches => "=~"
      a.source ++ " " ++ sign ++ " " ++ b.source
  | .not t => "! " ++ testText t
  | .and a b => testText a ++ " && " ++ testText b
  | .or a b => testText a ++ " || " ++ testText b
  | .group t => "( " ++ testText t ++ " )"

/-! ## Commands -/

mutual

/-- List a command. -/
def command : Command → Lister
  | .simple _ assignments words rs => do
      begins
      put (wordsText assignments words)
      unless rs.isEmpty do
        unless assignments.isEmpty && words.isEmpty do put " "
        redirects rs
  | .pipeline inverted cs => do
      if inverted then
        begins
        put "! "
        join
      piped cs
  | .timed usual c => do
      begins
      put (if usual then "time -p " else "time ")
      unless c matches .group [] do
        join
        command c
  | .both a b => do
      connected a
      flush " && "
      join
      second b
  | .either a b => do
      connected a
      flush " || "
      join
      second b
  | .aside c => do
      connected c
      flush " &"
      modify (fun t => { t with joints := t.joints - 1 })
  | .redirected _ c rs => do
      command c
      put " "
      redirects rs
  | .group body => do
      begins
      if (← get).onLines then
        put "\x7b \n"
        deeper (do
          commands body
          flush "")
        newLine "\x7d"
      else
        put "\x7b "
        join
        commands body
        flush ""
        semicolon
        put " \x7d"
  | .apart _ body => do
      begins
      put "( "
      join
      commands body
      flush ""
      put " )"
  | .choose condition yes no => do
      begins
      put "if "
      join
      commands condition
      semicolon
      put " then\n"
      deeper (do
        commands yes
        flush "")
      match no with
      | some body =>
          semicolon
          newLine "else\n"
          deeper (do
            commands body
            flush "")
      | none => pure ()
      semicolon
      newLine "fi"
  | .loop inverse condition body => do
      begins
      put (if inverse then "until " else "while ")
      join
      commands condition
      flush ""
      semicolon
      put " do\n"
      deeper (do
        commands body
        flush "")
      semicolon
      newLine "done"
  | .each _ asks name words body => do
      begins
      let list :=
        match words with
        | some ws => " ".intercalate (ws.map Word.source)
        | none => "\"$@\""
      put ((if asks then "select " else "for ") ++ name ++ " in " ++ list
        ++ ";")
      newLine "do\n"
      deeper (do
        commands body
        flush "")
      semicolon
      newLine "done"
  | .count _ _ _ _ sources body => do
      begins
      let shown := sources.map (fun s =>
        let t := String.ofList (s.toList.dropWhile isBlank)
        if t.isEmpty then "1" else t)
      put ("for ((" ++ "; ".intercalate shown ++ "))")
      newLine "do\n"
      deeper (do
        commands body
        flush "")
      semicolon
      newLine "done"
  | .select _ w bs => do
      begins
      put ("case " ++ w.source ++ " in ")
      deeper (branches bs)
      newLine "esac"
  | .calculate _ _ source => do
      begins
      put ("((" ++ source ++ "))")
  | .check _ t => do
      begins
      put ("[[ " ++ testText t ++ " ]]")
  | .define _ _ name body => do
      begins
      put ("function " ++ name ++ " () \n")
      indent
      let outside ← get
      set { outside with onLines := true }
      functionBody body
      modify (fun t => { t with onLines := outside.onLines })

/-- List what a function does. -/
def functionBody : Command → Lister
  | .group cs => do
      put "\x7b \n"
      deeper (do
        commands cs
        flush "")
      newLine "\x7d"
  | .redirected _ (.group cs) rs => do
      put "\x7b \n"
      deeper (do
        commands cs
        flush "")
      newLine "\x7d "
      redirects rs
  | c => do
      put "\x7b \n"
      deeper (do
        command c
        flush "")
      newLine "\x7d"

/-- List the first of two commands that are joined. -/
def connected : Command → Lister
  | c => do
      begins
      join
      modify (fun t => { t with joints := t.joints + 1 })
      command c

/-- List the second of two commands that are joined. -/
def second : Command → Lister
  | c => do
      command c
      flush ""
      modify (fun t => { t with joints := t.joints - 1 })

/-- List commands of which each has the output of the one before as its
    input. -/
def piped : List Command → Lister
  | [] => return ()
  | [c] => command c
  | c :: d :: rest => do
      connected c
      flush " |"
      put " "
      join
      piped (d :: rest)
      flush ""
      modify (fun t => { t with joints := t.joints - 1 })

/-- List commands one after the other. -/
def commands : List Command → Lister
  | [] => return ()
  | [c] => command c
  | .aside c :: d :: rest => do
      command (.aside c)
      put " "
      join
      commands (d :: rest)
  | c :: d :: rest => do
      modify (fun t => { t with joints := t.joints + 1 })
      command c
      let t ← get
      if t.below.isEmpty then
        if t.afterText then set { t with afterText := false } else put ";"
      else flush ""
      if t.onLines then put "\n"
      else
        put " "
        join
      modify (fun t => { t with joints := t.joints - 1 })
      commands (d :: rest)

/-- List the branches of a choice among patterns. -/
def branches : List Branch → Lister
  | [] => return ()
  | .mk patterns body ending :: rest => do
      newLine (" | ".intercalate (patterns.map Word.source))
      put ")\n"
      deeper (commands body)
      flush ""
      newLine
        (match ending with
          | .stops => ";;"
          | .fallsThrough => ";&"
          | .goesOn => ";;&")
      branches rest

end

/-- The listing of a function. -/
def function (name : String) (body : Command) : String :=
  let reserved := ["if", "then", "else", "elif", "fi", "case", "esac", "for",
    "select", "while", "until", "do", "done", "in", "function", "time", "\x7b",
    "\x7d", "!", "[[", "]]", "coproc"]
  let all : Lister := do
    if reserved.contains name then put "function "
    put (name ++ " () \n")
    functionBody body
  String.ofList (all.run { onLines := true }).2.written.reverse

/-- The text of commands that stand for themselves. -/
def several (cs : List Command) : String :=
  String.ofList ((commands cs).run {}).2.written.reverse

/-- The text of a command that stands for itself. -/
def single (c : Command) : String := several [c]

/-- Commands between parentheses as a part of a word, after a sign. -/
def nested (sign : String) (cs : List Command) : String :=
  let text := several cs
  sign ++ "(" ++ (if text.startsWith "(" then " " else "") ++ text ++ ")"

end Listing
end NodeFlow.Shell
