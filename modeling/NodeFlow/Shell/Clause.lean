import NodeFlow.Shell.Words

/-! # Reading extended conditions

    An extended condition stands between two signs of its own.  It is read
    token by token, and the token behind it tells how it goes on.  When it is
    none, complaints say what was wrong, then what stands before the place
    where that was seen, and the line. -/

namespace NodeFlow.Shell

namespace Clause

/-- What comes next in a condition. -/
inductive Token where
  /-- The sign that ends it. -/
  | stop
  /-- A word. -/
  | word (source : String)
  /-- A sign between words. -/
  | sign (s : String)
  /-- The end of a line. -/
  | newline
  /-- The end of the snippet. -/
  | nothing
  deriving DecidableEq, Repr

/-- A token in complaints; words are not shown. -/
def Token.shown? : Token → Option String
  | .stop => some "]]"
  | .word _ => none
  | .sign s => some s
  | .newline => some "newline"
  | .nothing => some "EOF"

/-- What is wrong with a condition. -/
structure Wrong where
  /-- The complaints. -/
  complaints : List (Nat × String) := []
  /-- Whether the snippet has come to its end. -/
  atEnd : Bool := false
  /-- Whether something in it would have to be closed first. -/
  isOpen : Bool := false

/-- Reading that ends when something is wrong with the condition. -/
abbrev Read : Type → Type := ExceptT Wrong Reader

/-- The operators on one word. -/
def isUnary (w : String) : Bool :=
  match w.toList with
  | ['-', c] => "abcdefghknoprstuvwxzGLNORS".toList.contains c
  | _ => false

/-- The comparison that a word is. -/
def comparison? (w : String) : Option Comparison :=
  if ["=", "==", "!="].contains w then some (.fits w)
  else if w = "=~" then some .matches
  else if ["<", ">", "-eq", "-ne", "-lt", "-le", "-gt", "-ge", "-nt", "-ot",
      "-ef"].contains w then some (.operator w)
  else none

/-! ## Tokens -/

/-- The next token.  A snippet ends with the end of its last line. -/
def ahead : Reader Token := do
  Reader.blanks
  let c ← get
  match c.rest with
  | [] => return if c.lineStart.isEmpty then .nothing else .newline
  | '\n' :: _ => return .newline
  | cs =>
      match Reader.signAhead? .extended cs with
      | some s => return .sign s
      | none =>
          let w := String.ofList (Reader.wholeWord [] cs)
          return if w = "]]" then .stop else .word w

/-- Go past a token that is on the line. -/
def pass : Token → Reader Unit
  | .stop => Reader.skip 2
  | .word w => Reader.skip w.length
  | .sign s => Reader.skip s.length
  | .newline | .nothing => return ()

/-- Take the next token. -/
def take : Reader Token := do
  let t ← ahead
  pass t
  return t

/-- Go to the next token that is not the end of a line. -/
def aheadBelow : Reader Token := do
  Reader.lines
  match ← ahead with
  | .newline => return .nothing
  | t => return t

/-- Take the next token that is not the end of a line. -/
def takeBelow : Reader Token := do
  let t ← aheadBelow
  pass t
  return t

/-- The number of the line that has been reached. -/
def lineAt (t : Token) : Reader Nat := do
  let c ← get
  return if t = .nothing then Reader.lineBelow c else c.line

/-- Complain about a token. -/
def refuse {α : Type} (t : Token) (named : String → String) (other : String) :
    Read α := do
  let line ← liftM (lineAt t)
  let text := (t.shown?.map named).getD other
  throw { complaints := [(line, text)], atEnd := t = .nothing }

/-! ## Conditions -/

variable (word : Ending → Reader Word)

/-- Read a word as an operand. -/
def operand (e : Ending) : Read Word := do
  liftM Reader.blanks
  liftM (word e)

/-- How many parentheses are open after characters. -/
def openAfter : Nat → List Char → Nat
  | level, [] => level
  | level, '\\' :: _ :: rest => openAfter level rest
  | level, '(' :: rest => openAfter (level + 1) rest
  | level, ')' :: rest => openAfter (level - 1) rest
  | level, _ :: rest => openAfter level rest

/-- Read a regular expression as an operand, whose parentheses must be
    closed. -/
def expression : Read Word := do
  liftM Reader.blanks
  let start ← liftM (get : Reader Cursor)
  let w ← operand word .expression
  let c ← liftM (get : Reader Cursor)
  if c.rest.isEmpty && 0 < openAfter 0 w.source.toList then
    throw
      { complaints :=
          [(start.line, "unexpected EOF while looking for matching \x60)'"),
            (Reader.lineBelow c,
              "unexpected argument to conditional binary operator")]
        isOpen := true }
  else return w

mutual

/-- Read conditions of which one must hold; answers the token behind them,
    too. -/
def any : Nat → Read (Test × Token)
  | 0 => throw {}
  | fuel + 1 => do
      let (a, t) ← all fuel
      if t = .sign "||" then
        let (b, t) ← any fuel
        return (.or a b, t)
      else return (a, t)

/-- Read conditions that must all hold. -/
def all : Nat → Read (Test × Token)
  | 0 => throw {}
  | fuel + 1 => do
      let (a, t) ← one fuel
      if t = .sign "&&" then
        let (b, t) ← all fuel
        return (.and a b, t)
      else return (a, t)

/-- Read a single condition. -/
def one : Nat → Read (Test × Token)
  | 0 => throw {}
  | fuel + 1 => do
      let t ← liftM aheadBelow
      let line ← liftM (lineAt t)
      match t with
      | .stop => do
          liftM (pass t)
          throw {}
      | .sign "(" => do
          liftM (pass t)
          let (inner, t) ← tryCatch (any fuel) (fun wrong =>
            throw { wrong with
              complaints := wrong.complaints ++ [(line, "expected `)'")] })
          if t = .sign ")" then return (.group inner, ← liftM takeBelow)
          else
            let text :=
              match t.shown? with
              | some s => "unexpected token `" ++ s ++ "', expected `)'"
              | none => "expected `)'"
            throw { complaints := [(line, text)], atEnd := t = .nothing }
      | .word "!" => do
          liftM (pass t)
          let (inner, t) ← one fuel
          return (.not inner, t)
      | .word w => if isUnary w then ofOne w else ofTwo
      | t => do
          liftM (pass t)
          refuse t (fun s => "unexpected token `" ++ s
            ++ "' in conditional command") ""

/-- Read a condition on one word, which begins with its operator. -/
def ofOne (op : String) : Read (Test × Token) := do
  liftM (pass (.word op))
  match ← liftM ahead with
  | .word _ => do
      let w ← operand word (.word true)
      return (.unary op w, ← liftM takeBelow)
  | t => do
      liftM (pass t)
      refuse t (fun s => "unexpected argument `" ++ s
        ++ "' to conditional unary operator") ""

/-- Read a condition that begins with a word. -/
def ofTwo : Read (Test × Token) := do
  let a ← operand word (.word true)
  let t ← liftM ahead
  liftM (pass t)
  let sign :=
    match t with
    | .word w => w
    | .sign s => if s = "<" || s = ">" then s else ""
    | _ => ""
  match comparison? sign with
  | some how => do
      match ← liftM ahead with
      | .word _ => do
          let b ←
            if how = .matches then expression word
            else operand word (.word true)
          return (.binary a how b, ← liftM takeBelow)
      | .sign "(" => do
          if how = .matches then
            let b ← expression word
            return (.binary a how b, ← liftM takeBelow)
          else bad (.sign "(")
      | t => bad t
  | none => do
      if t = .stop || t = .sign "&&" || t = .sign "||" || t = .sign ")" then
        return (.word a, t)
      else
        refuse t (fun s => "unexpected token `" ++ s
            ++ "', conditional binary operator expected")
          "conditional binary operator expected"
where
  /-- Complain about what stands in the place of the second word. -/
  bad (t : Token) : Read (Test × Token) := do
    liftM (pass t)
    refuse t (fun s => "unexpected argument `" ++ s
      ++ "' to conditional binary operator") ""

end

/-! ## Faults -/

/-- What stands in the line before the place that has been reached. -/
def textNear (c : Cursor) : String :=
  let before := c.lineStart.take (c.lineStart.length - c.rest.length)
  let next := (c.rest.take 1).filter (fun d => !isSpace d)
  let back := (before ++ next).reverse.dropWhile isSpace
  let ends (d : Char) : Bool := " \n\t;|&".toList.contains d
  let text := back.takeWhile (fun d => !ends d)
  let sign := ((back.drop text.length).take 1).filter (fun d => !isSpace d)
  String.ofList (text ++ sign).reverse

/-- Fail because something is wrong with a condition. -/
def failOver {α : Type} (wrong : Wrong) : Reader α := do
  let c ← get
  if wrong.isOpen then
    throw { complaints := wrong.complaints, early := true, isOpen := true }
  else if wrong.atEnd then
    Reader.fail
      (wrong.complaints
        ++ [(Reader.lineBelow c, "syntax error: unexpected end of file")]) true
  else
    Reader.fail
      (wrong.complaints ++
        [(c.line, "syntax error near `" ++ textNear c ++ "'"),
          (c.line, "`" ++ Reader.lineText c ++ "'")]) false

/-- The number of the line on which a condition has ended before the sign. -/
def endLine (start stop : Cursor) : Nat :=
  let text := (start.rest.take (stop.place - start.place - 2)).reverse
  stop.commandLine
    - ((text.takeWhile isSpace).filter (fun c => c = '\n')).length

/-- Read a condition up to the sign that ends it; answers it and the number of
    its line. -/
def read (fuel : Nat) : Reader (Test × Nat) := do
  let start ← get
  let line := start.line
  match ← (any word fuel).run with
  | .ok (t, .stop) => return (t, endLine start (← get))
  | .ok (_, .nothing) =>
      failOver
        { complaints := [(line, "unexpected EOF while looking for `]]'")]
          atEnd := true }
  | .ok (_, t) =>
      let text :=
        match t.shown? with
        | some s => "syntax error in conditional expression: unexpected token `"
            ++ s ++ "'"
        | none => "syntax error in conditional expression"
      failOver { complaints := [(line, text)] }
  | .error wrong => failOver wrong

end Clause
end NodeFlow.Shell
