import NodeFlow.Json.Numeral

/-! # Tokens

    Reading a text into tokens looks at one character at a time and keeps
    only where it stands.  A quoted text with an escape of half a surrogate
    pair is a token without content; whether that is an error is for the
    reader of the token to decide. -/

namespace NodeFlow.Json

/-- A token of a JSON text. -/
inductive Token where
  /-- `[` -/
  | openList
  /-- `]` -/
  | closeList
  /-- An opening brace. -/
  | openObject
  /-- A closing brace. -/
  | closeObject
  /-- `,` -/
  | comma
  /-- `:` -/
  | colon
  /-- `null`, `true` or `false` -/
  | literal (v : Option Bool)
  /-- A numeral. -/
  | numeral (n : Numeral)
  /-- A quoted text; nothing when it is not a text of characters. -/
  | text (s : Option String)
  deriving DecidableEq, Repr

/-- A part of a quoted text: a character as it stands, or a code unit that
    an escape names. -/
inductive Piece where
  /-- A character. -/
  | char (c : Char)
  /-- A code unit. -/
  | unit (n : Nat)
  deriving DecidableEq, Repr

/-- The text that pieces spell.  Two halves of a surrogate pair in a row
    make one character; any other half makes no text. -/
def spell : List Piece → Option (List Char)
  | [] => some []
  | .char c :: rest => (spell rest).map (c :: ·)
  | .unit h :: .unit l :: rest =>
      if 0xD800 ≤ h && h < 0xDC00 then
        if 0xDC00 ≤ l && l < 0xE000 then
          (spell rest).map
            (Char.ofNat (0x10000 + (h - 0xD800) * 0x400 + (l - 0xDC00)) :: ·)
        else none
      else if 0xDC00 ≤ h && h < 0xE000 then none
      else (spell (.unit l :: rest)).map (Char.ofNat h :: ·)
  | .unit h :: rest =>
      if 0xD800 ≤ h && h < 0xE000 then none
      else (spell rest).map (Char.ofNat h :: ·)

/-- Where reading stands. -/
inductive Scan where
  /-- Between tokens. -/
  | gap
  /-- In a numeral or a literal, its characters so far, last first. -/
  | bare (done : List Char)
  /-- In a quoted text, its pieces so far, last first. -/
  | quote (done : List Piece)
  /-- After a backslash in a quoted text. -/
  | escape (done : List Piece)
  /-- In the digits of a code unit: its value and how many are owed. -/
  | unit (done : List Piece) (value owed : Nat)
  deriving DecidableEq, Repr

/-- The value of a hexadecimal digit. -/
def hexValue? (c : Char) : Option Nat :=
  let n := c.toNat
  if 0x30 ≤ n && n ≤ 0x39 then some (n - 0x30)
  else if 0x61 ≤ n && n ≤ 0x66 then some (n - 0x57)
  else if 0x41 ≤ n && n ≤ 0x46 then some (n - 0x37)
  else none

/-- The characters that may stand between tokens. -/
def isGap (c : Char) : Bool :=
  c = ' ' || c = '\n' || c = '\t' || c = '\r'

/-- The characters of numerals and literals. -/
def isBare (c : Char) : Bool :=
  c.isAlphanum || c = '-' || c = '+' || c = '.'

/-- The token of a bare word. -/
def bareToken (cs : List Char) : Option Token :=
  if cs = ['n', 'u', 'l', 'l'] then some (.literal none)
  else if cs = ['t', 'r', 'u', 'e'] then some (.literal (some true))
  else if cs = ['f', 'a', 'l', 's', 'e'] then some (.literal (some false))
  else (Numeral.ofChars? cs).map .numeral

/-- The token that a character is by itself. -/
def markToken (c : Char) : Option Token :=
  if c = '[' then some .openList
  else if c = ']' then some .closeList
  else if c = '\x7b' then some .openObject
  else if c = '\x7d' then some .closeObject
  else if c = ',' then some .comma
  else if c = ':' then some .colon
  else none

/-- What a letter after a backslash stands for; `u` is not among them. -/
def escapeValue (c : Char) : Option Char :=
  if c = '"' then some '"'
  else if c = '\\' then some '\\'
  else if c = '/' then some '/'
  else if c = 'b' then some (Char.ofNat 0x08)
  else if c = 'f' then some (Char.ofNat 0x0C)
  else if c = 'n' then some '\n'
  else if c = 'r' then some '\r'
  else if c = 't' then some '\t'
  else none

/-- One character between tokens: the token it completes, if any, and where
    reading stands after it. -/
def gapStep (c : Char) : Option (Option Token × Scan) :=
  if isGap c then some (none, .gap)
  else if c = '"' then some (none, .quote [])
  else if isBare c then some (none, .bare [c])
  else (markToken c).map (fun t => (some t, .gap))

/-- One character: the tokens it completes and where reading stands. -/
def scanStep : Scan → Char → Option (List Token × Scan)
  | .gap, c => (gapStep c).map (fun (t, s) => (t.toList, s))
  | .bare done, c =>
      if isBare c then some ([], .bare (c :: done))
      else do
        let word ← bareToken done.reverse
        let (t, s) ← gapStep c
        some (word :: t.toList, s)
  | .quote done, c =>
      if c = '"' then
        some ([.text ((spell done.reverse).map String.ofList)], .gap)
      else if c = '\\' then some ([], .escape done)
      else if c.toNat < 0x20 then none
      else some ([], .quote (.char c :: done))
  | .escape done, c =>
      if c = 'u' then some ([], .unit done 0 4)
      else (escapeValue c).map (fun e => ([], .quote (.char e :: done)))
  | .unit done value owed, c => do
      let value := 16 * value + (← hexValue? c)
      if owed ≤ 1 then some ([], .quote (.unit value :: done))
      else some ([], .unit done value (owed - 1))

/-- Read on from a position; the tokens so far come last first. -/
def scanFrom (done : List Token) : Scan → List Char → Option (List Token)
  | .gap, [] => some done.reverse
  | .bare word, [] =>
      (bareToken word.reverse).map (fun t => (t :: done).reverse)
  | .quote _, [] | .escape _, [] | .unit _ _ _, [] => none
  | s, c :: rest =>
      match scanStep s c with
      | some (ts, s') => scanFrom (ts.reverse ++ done) s' rest
      | none => none

/-- The tokens of a text; `none` when it is no sequence of tokens. -/
def tokens? (s : String) : Option (List Token) :=
  scanFrom [] .gap s.toList

end NodeFlow.Json
