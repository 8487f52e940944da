import NodeFlow.Json.Token
import NodeFlow.Script.Value
import NodeFlow.Text.Name

/-! # Tokens of scripts

    A script is a sequence of words, numbers, texts and marks.  Blanks and
    comments between them mean nothing, except that a token knows whether a
    line has ended before it.

    Characters that belong to no token are a token of their own, after which
    nothing is read: they do no harm where a script has ended before them. -/

namespace NodeFlow.Script

/-- A token. -/
inductive Token where
  /-- A name or a keyword; a keyword may not be `escaped`. -/
  | word (s : String) (escaped : Bool)
  /-- A number. -/
  | number (n : Num)
  /-- A whole number of any size. -/
  | big (n : Nat)
  /-- A text. -/
  | text (units : List Nat)
  /-- The beginning of a text between backquotes; values follow unless it is
      the end, too. -/
  | opening (units : List Nat) (ends : Bool)
  /-- A text between backquotes that goes on after a value. -/
  | ongoing (units : List Nat) (ends : Bool)
  /-- Punctuation. -/
  | mark (s : String)
  /-- Characters that belong to no token. -/
  | bad
  deriving DecidableEq, Repr

/-- A token and whether a line has ended before it. -/
structure Lexeme where
  /-- The token. -/
  token : Token
  /-- Whether a line has ended since the token before. -/
  afterBreak : Bool
  deriving DecidableEq, Repr

namespace Lexeme

/-- Whether a character ends a line. -/
def isBreak (c : Char) : Bool :=
  c = '\n' || c = '\r' || c.toNat = 0x2028 || c.toNat = 0x2029

/-- Whether a name may start with a character. -/
def startsName (c : Char) : Bool :=
  c = '_' || c = '$' || Text.startsName c

/-- Whether a name may go on with a character. -/
def inName (c : Char) : Bool :=
  c = '$' || Text.continuesName c || c.toNat = 0x200C || c.toNat = 0x200D

/-! ## Escapes -/

/-- The value of hexadecimal digits. -/
def hexValue? (cs : List Char) : Option Nat := Num.ofDigits? 16 cs

/-- What a letter after a backslash stands for; a character without a meaning
    of its own stands for itself. -/
def escaped (c : Char) : Char :=
  match c with
  | 'n' => '\n'
  | 't' => '\t'
  | 'r' => '\r'
  | 'b' => Char.ofNat 8
  | 'v' => Char.ofNat 11
  | 'f' => Char.ofNat 12
  | c => c

/-- What is read of a text after a backslash. -/
inductive Escape where
  /-- The units that it stands for, and how many more characters it takes. -/
  | stands (units : List Nat) (more : Nat)
  /-- It stands for nothing. -/
  | bad

/-- The units of a number of a character. -/
def codeUnits? (n : Nat) : Option (List Nat) :=
  if n < 0x10000 then some [n]
  else if n < 0x110000 then some (Text.charUnits (Char.ofNat n))
  else none

/-- The number of a character after a backslash and a `u`, and how many more
    characters it takes. -/
def unicodeEscape? : List Char → Option (Nat × Nat)
  | '\x7b' :: rest =>
      let digits := rest.takeWhile (fun c => c != '\x7d')
      if rest.length = digits.length then none
      else (hexValue? digits).map (fun n => (n, digits.length + 2))
  | a :: b :: c :: d :: _ => (hexValue? [a, b, c, d]).map (fun n => (n, 4))
  | _ => none

/-- The octal digits at the beginning that stand for one unit. -/
def octalDigits (cs : List Char) : List Char :=
  let ds := (cs.take 3).takeWhile (fun c => '0' ≤ c && c ≤ '7')
  match ds with
  | [d, _, _] => if d ≤ '3' then ds else ds.take 2
  | ds => ds

/-- What follows a backslash; octal digits only if `octal`. -/
def escape (octal : Bool) : List Char → Escape
  | 'x' :: rest =>
      match rest with
      | a :: b :: _ =>
          match hexValue? [a, b] with
          | some n => .stands [n] 3
          | none => .bad
      | _ => .bad
  | 'u' :: rest =>
      match unicodeEscape? rest with
      | some (n, more) =>
          match codeUnits? n with
          | some units => .stands units (more + 1)
          | none => .bad
      | none => .bad
  | '\r' :: '\n' :: _ => .stands [] 2
  | c :: rest =>
      if isBreak c then .stands [] 1
      else if c = '0' && !rest.head?.any Char.isDigit then .stands [0] 1
      else if c.isDigit then
        let digits := octalDigits (c :: rest)
        if !octal then .bad
        else if digits.isEmpty then .stands (Text.charUnits c) 1
        else .stands [(Num.ofDigits? 8 digits).getD 0] digits.length
      else .stands (Text.charUnits (escaped c)) 1
  | [] => .bad

/-! ## Texts -/

/-- The units of a text up to its closing quote, and what follows.  The first
    `skip` characters have been read with the escape before them. -/
def textBody (quote : Char) : Nat → List Char →
    Option (List Nat × List Char)
  | _, [] => none
  | skip + 1, _ :: rest => textBody quote skip rest
  | 0, c :: rest =>
      if c = quote then some ([], rest)
      else if c = '\n' || c = '\r' then none
      else if c = '\\' then
        match escape true rest with
        | .stands units more =>
            (textBody quote more rest).map (fun (us, r) => (units ++ us, r))
        | .bad => none
      else
        (textBody quote 0 rest).map
          (fun (us, r) => (Text.charUnits c ++ us, r))

/-- The units of a text between backquotes up to its end or to a value,
    whether it is the end, and what follows.  The first `skip` characters
    have been read with the escape before them. -/
def joinedBody : Nat → List Char → Option (List Nat × Bool × List Char)
  | _, [] => none
  | skip + 1, _ :: rest => joinedBody skip rest
  | 0, '`' :: rest => some ([], true, rest)
  | 0, '$' :: '\x7b' :: rest => some ([], false, rest)
  | 0, '\r' :: '\n' :: rest =>
      (joinedBody 0 rest).map (fun (us, e, r) => (10 :: us, e, r))
  | 0, c :: rest =>
      if c = '\\' then
        match escape false rest with
        | .stands units more =>
            (joinedBody more rest).map (fun (us, e, r) => (units ++ us, e, r))
        | .bad => none
      else
        let units := if c = '\r' then [10] else Text.charUnits c
        (joinedBody 0 rest).map (fun (us, e, r) => (units ++ us, e, r))

/-! ## Names -/

/-- A name, whether it has escapes, and what follows.  The first `skip`
    characters have been read with the escape before them; a name that has
    not `begun` must start like one. -/
def nameBody (begun : Bool) : Nat → List Char →
    Option (List Char × Bool × List Char)
  | _, [] => some ([], false, [])
  | skip + 1, _ :: rest => nameBody begun skip rest
  | 0, '\\' :: 'u' :: rest =>
      match unicodeEscape? rest with
      | some (n, more) =>
          let c := Char.ofNat n
          if n != 0 && (if begun then inName c else startsName c) then
            (nameBody true (more + 1) ('u' :: rest)).map
              (fun (cs, _, r) => (c :: cs, true, r))
          else none
      | none => none
  | 0, c :: rest =>
      if if begun then inName c else startsName c then
        (nameBody true 0 rest).map (fun (cs, e, r) => (c :: cs, e, r))
      else some ([], false, c :: rest)

/-! ## Numbers -/

/-- Digits with single underscores between them, without these, and what
    follows; nothing if an underscore stands at an end. -/
def digitsAhead (isDigit : Char → Bool) (cs : List Char) :
    Option (List Char × List Char) :=
  let all := cs.takeWhile (fun c => isDigit c || c = '_')
  let rest := cs.drop all.length
  let lonely :=
    all.head? = some '_' || all.getLast? = some '_'
      || (all.zip all.tail).any (fun (a, b) => a = '_' && b = '_')
  if lonely then none else some (all.filter (fun c => c != '_'), rest)

/-- The number at the beginning, and what follows: whole digits, a point with
    more digits, an exponent. -/
def decimalAhead (cs : List Char) : Option (Num × List Char) := do
  let (whole, rest) ← digitsAhead Char.isDigit cs
  let (fraction, rest) ←
    match rest with
    | '.' :: more => digitsAhead Char.isDigit more
    | rest => some ([], rest)
  let (power, rest) ←
    match rest with
    | e :: more =>
        if e = 'e' || e = 'E' then do
          let (negative, more) :=
            match more with
            | '-' :: more => (true, more)
            | '+' :: more => (false, more)
            | more => (false, more)
          let (ds, rest) ← digitsAhead Char.isDigit more
          if ds.isEmpty then none
          else
            let n : Int := Numeral.digitsValue ds
            some (if negative then -n else n, rest)
        else some ((0 : Int), rest)
    | [] => some (0, [])
  if whole.isEmpty && fraction.isEmpty then none
  else
    some
      (Num.ofDecimal (Numeral.digitsValue (whole ++ fraction))
        (power - fraction.length), rest)

/-- The token of the number at the beginning, and what follows. -/
def numberAhead (cs : List Char) : Option (Token × List Char) :=
  match cs with
  | '0' :: c :: rest =>
      match Num.baseOf? c with
      | some base => do
          let isDigit (c : Char) : Bool := (Num.digitValue? base c).isSome
          let (ds, rest) ← digitsAhead isDigit rest
          let n ← Num.ofDigits? base ds
          match rest with
          | 'n' :: rest => some (.big n, rest)
          | rest => some (.number (Num.ofNat n), rest)
      | none =>
          if c = '_' then none
          else if c.isDigit then
            let digits := c :: rest.takeWhile Char.isDigit
            match Num.ofDigits? 8 digits with
            | some n =>
                let rest := (c :: rest).drop digits.length
                if rest.head? = some '_' then none
                else some (.number (Num.ofNat n), rest)
            | none =>
                if ((c :: rest).drop digits.length).head? = some '_' then none
                else (decimalAhead cs).map (fun (n, r) => (.number n, r))
          else if c = 'n' then some (.big 0, rest)
          else (decimalAhead cs).map (fun (n, r) => (.number n, r))
  | cs => do
      let (whole, rest) ← digitsAhead Char.isDigit cs
      match rest with
      | 'n' :: rest => some (.big (Numeral.digitsValue whole), rest)
      | _ => (decimalAhead cs).map (fun (n, r) => (.number n, r))

/-- The number at the beginning, and what follows; neither a name nor a digit
    may follow directly. -/
def number? (cs : List Char) : Option (Token × List Char) := do
  let (t, rest) ← numberAhead cs
  if rest.head?.any (fun c => startsName c || c.isDigit || c = '\\') then none
  else some (t, rest)

/-! ## All tokens -/

/-- What follows a comment that starts with two slashes. -/
def afterLineComment (cs : List Char) : List Char :=
  cs.dropWhile (fun c => !isBreak c)

/-- What follows a comment between slashes with stars, and whether a line
    ended in it. -/
def afterComment? : List Char → Option (Bool × List Char)
  | [] => none
  | '*' :: '/' :: rest => some (false, rest)
  | c :: rest =>
      (afterComment? rest).map (fun (b, r) => (b || isBreak c, r))

/-- The marks, a longer one before its beginning. -/
def marks : List String :=
  [">>>=", "...", "===", "!==", "**=", "<<=", ">>=", ">>>", "&&=", "||=",
    "??=", "=>", "==", "!=", "<=", ">=", "&&", "||", "??", "?.", "++", "--",
    "+=", "-=", "*=", "/=", "%=", "&=", "|=", "^=", "<<", ">>", "**", "(",
    ")", "[", "]", "\x7b", "\x7d", ",", ":", ";", ".", "+", "-", "*", "/",
    "%", "=", "?", "!", "~", "<", ">", "&", "|", "^"]

/-- Whether characters begin with others. -/
def beginsWith : List Char → List Char → Bool
  | [], _ => true
  | _ :: _, [] => false
  | a :: start, c :: cs => a == c && beginsWith start cs

/-- The mark at the beginning.  A question mark and a point in front of a
    digit are two marks. -/
def markAhead? (cs : List Char) : Option String :=
  match cs with
  | '?' :: '.' :: c :: _ =>
      if c.isDigit then some "?" else some "?."
  | cs => marks.find? (fun m => beginsWith m.toList cs)

/-- The braces that are open inside each value in a text between
    backquotes. -/
abbrev Nesting : Type := List Nat

/-- The open braces after a mark. -/
def Nesting.after (nesting : Nesting) (m : String) : Nesting :=
  match m, nesting with
  | "\x7b", n :: outer => (n + 1) :: outer
  | "\x7d", n :: outer => (n - 1) :: outer
  | _, nesting => nesting

/-- The tokens of a script, `broken` telling whether a line has just
    ended. -/
def scan : Nat → Bool → Nesting → List Char → List Lexeme
  | _, _, [], [] => []
  | _, broken, _ :: _, [] => [⟨.bad, broken⟩]
  | 0, broken, _, _ :: _ => [⟨.bad, broken⟩]
  | fuel + 1, broken, nesting, c :: rest =>
      let found (t : Token) (rest : List Char) : List Lexeme :=
        ⟨t, broken⟩ :: scan fuel false nesting rest
      if isBreak c then scan fuel true nesting rest
      else if Num.isSpace c then scan fuel broken nesting rest
      else if startsName c || c = '\\' then
        match nameBody false 0 (c :: rest) with
        | some (name, escaped, after) =>
            if name.isEmpty then [⟨.bad, broken⟩]
            else found (.word (String.ofList name) escaped) after
        | none => [⟨.bad, broken⟩]
      else if c = '"' || c = '\'' then
        match textBody c 0 rest with
        | some (units, rest) => found (.text units) rest
        | none => [⟨.bad, broken⟩]
      else if c.isDigit || (c = '.' && rest.head?.any Char.isDigit) then
        match number? (c :: rest) with
        | some (t, rest) => found t rest
        | none => [⟨.bad, broken⟩]
      else
        match c, rest, nesting with
        | '/', '/' :: rest, _ => scan fuel broken nesting (afterLineComment rest)
        | '/', '*' :: rest, _ =>
            match afterComment? rest with
            | some (b, rest) => scan fuel (broken || b) nesting rest
            | none => [⟨.bad, broken⟩]
        | '`', rest, _ =>
            match joinedBody 0 rest with
            | some (units, ends, rest) =>
                ⟨.opening units ends, broken⟩
                  :: scan fuel false (if ends then nesting else 0 :: nesting)
                    rest
            | none => [⟨.bad, broken⟩]
        | '\x7d', rest, 0 :: outer =>
            match joinedBody 0 rest with
            | some (units, ends, rest) =>
                ⟨.ongoing units ends, broken⟩
                  :: scan fuel false (if ends then outer else 0 :: outer) rest
            | none => [⟨.bad, broken⟩]
        | c, rest, nesting =>
            match markAhead? (c :: rest) with
            | some m =>
                ⟨.mark m, broken⟩
                  :: scan fuel false (nesting.after m)
                    ((c :: rest).drop m.length)
            | none => [⟨.bad, broken⟩]

/-- The tokens of a script. -/
def ofText (s : String) : List Lexeme :=
  let cs := s.toList
  scan (cs.length + 1) false [] cs

end Lexeme
end NodeFlow.Script
