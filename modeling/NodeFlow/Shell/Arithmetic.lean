import NodeFlow.Number.Binary64
import NodeFlow.Shell.Parameters

/-! # Arithmetic

    Expressions over whole numbers of 64 bits are read and worked out at once.
    What does not count, like the choice that is not taken, is only read.  In
    the extended family the value of a name is an expression, too. -/

namespace NodeFlow.Shell

namespace Arithmetic

/-- A number in 64 bits. -/
def wrap (n : Int) : Int := n.bmod (2 ^ 64)

/-- One for a condition that holds. -/
def truth (b : Bool) : Int := if b then 1 else 0

/-- The number of bits by which a shift moves. -/
def shiftCount (n : Int) : Nat := (n % 64).toNat

/-- Combine the bits of two numbers. -/
def bitwise (f : BitVec 64 → BitVec 64 → BitVec 64) (a b : Int) : Int :=
  (f (BitVec.ofInt 64 a) (BitVec.ofInt 64 b)).toInt

/-- A power in 64 bits. -/
def power (a : Int) (n : Nat) : Int :=
  let rec go : Nat → Int → Nat → Int → Int
    | 0, _, _, r => r
    | fuel + 1, b, k, r =>
        if k = 0 then r
        else
          go fuel (wrap (b * b)) (k / 2) (if k % 2 = 1 then wrap (r * b) else r)
  go 64 a n 1

/-- The result of an operator; nothing for a division by zero. -/
def operate? (sign : String) (a b : Int) : Option Int :=
  match sign with
  | "||" => some (truth (a != 0 || b != 0))
  | "&&" => some (truth (a != 0 && b != 0))
  | "==" => some (truth (a == b))
  | "!=" => some (truth (a != b))
  | "<<" => some (wrap (a * 2 ^ shiftCount b))
  | ">>" => some (a.fdiv (2 ^ shiftCount b))
  | "<=" => some (truth (decide (a ≤ b)))
  | ">=" => some (truth (decide (b ≤ a)))
  | "<" => some (truth (decide (a < b)))
  | ">" => some (truth (decide (b < a)))
  | "|" => some (bitwise (· ||| ·) a b)
  | "^" => some (bitwise (· ^^^ ·) a b)
  | "&" => some (bitwise (· &&& ·) a b)
  | "+" => some (wrap (a + b))
  | "-" => some (wrap (a - b))
  | "*" => some (wrap (a * b))
  | "**" => some (power a b.toNat)
  | "/" => if b = 0 then none else some (wrap (a.tdiv b))
  | "%" => if b = 0 then none else some (a.tmod b)
  | _ => some 0

/-- The level of an operator between two operands; the weakest has level
    zero. -/
def level? : String → Option Nat
  | "||" => some 0
  | "&&" => some 1
  | "|" => some 2
  | "^" => some 3
  | "&" => some 4
  | "==" | "!=" => some 5
  | "<=" | ">=" | "<" | ">" => some 6
  | "<<" | ">>" => some 7
  | "+" | "-" => some 8
  | "*" | "/" | "%" => some 9
  | _ => none

/-- The signs of the plain family, a longer one before its beginning, with
    their characters. -/
def plainSigns : List (List Char × String) :=
  ["<<=", ">>=", "<<", ">>", "<=", ">=", "==", "!=", "&&", "||", "+=", "-=",
    "*=", "/=", "%=", "&=", "^=", "|=", "+", "-", "*", "/", "%", "=", "<",
    ">", "&", "|", "^", "!", "~", "?", ":", "(", ")"].map
    (fun s => (s.toList, s))

/-- The signs of the extended family. -/
def extendedSigns : List (List Char × String) :=
  ("**".toList, "**") :: plainSigns ++ [([','], ",")]

/-- How far an expression has been read. -/
structure Spot where
  /-- The characters that follow. -/
  rest : List Char
  /-- The characters from the last token on. -/
  last : List Char
  /-- The expression. -/
  whole : String
  /-- How many expressions are being worked out. -/
  level : Nat

/-- What an expression is worked out in.  The fault is a complaint. -/
abbrev Calc : Type → Type := StateT Spot (ExceptT String Act)

/-- Do something that a shell does. -/
def liftAct {α : Type} (act : Act α) : Calc α := fun s => do
  let v ← ExceptT.lift act
  return (v, s)

/-- Go past white space. -/
def blanks : Calc Unit :=
  modify (fun s => { s with rest := s.rest.dropWhile isSpace })

/-- The sign that comes next. -/
def signAhead? (d : Dialect) (cs : List Char) : Option String :=
  let known :=
    match d with
    | .plain => plainSigns
    | .extended => extendedSigns
  (known.find? (fun s => beginsWith s.1 cs)).map (·.2)

/-- Whether a name follows white space. -/
def startsNext (cs : List Char) : Bool :=
  ((cs.dropWhile isSpace).head?.map startsName).getD false

/-- Go past a sign. -/
def pass (sign : String) : Calc Unit := do
  blanks
  modify (fun s =>
    { s with rest := s.rest.drop sign.length, last := s.rest })

/-- Fail, with the words of each family.  The extended one shows the
    characters at fault. -/
def fail {α : Type} (d : Dialect) (whole plain extended : String)
    (token : List Char) : Calc α :=
  throw
    (match d with
      | .plain => "arithmetic expression: " ++ plain ++ ": \"" ++ whole ++ "\""
      | .extended =>
          String.ofList (whole.toList.dropWhile isBlank) ++ ": " ++ extended
            ++ " (error token is \"" ++ String.ofList token ++ "\")")

/-- Whether a character occurs in expressions. -/
def isKnown (c : Char) : Bool :=
  inName c || "()+-*/%<>=&|^!~?:,".toList.contains c

/-- The value of a digit of a base. -/
def digitOf? (base : Nat) (c : Char) : Option Nat :=
  let n : Option Nat :=
    if c.isDigit then some (c.toNat - '0'.toNat)
    else if c.isLower then some (c.toNat - 'a'.toNat + 10)
    else if c.isUpper then
      some (c.toNat - 'A'.toNat + (if base ≤ 36 then 10 else 36))
    else if c = '@' then some 62
    else if c = '_' then some 63
    else none
  n.filter (fun n => n < base)

/-- The number that digits of a base write, or what is wrong with them. -/
def ofDigits (base : Nat) (cs : List Char) : Except String Int :=
  match cs.foldlM (fun n c => (digitOf? base c).map (fun d => n * base + d)) 0
  with
  | some n => .ok (wrap n)
  | none => .error "value too great for base"

/-- The number that characters write in the extended family. -/
def constant (cs : List Char) : Except String Int :=
  match cs with
  | '0' :: 'x' :: rest | '0' :: 'X' :: rest => ofDigits 16 rest
  | cs =>
      let (base, digits) := cs.span (fun c => c != '#')
      match digits with
      | _ :: digits =>
          if !base.all Char.isDigit then .error "invalid number"
          else
            let b := decimalValue base
            if b < 2 || 64 < b then .error "invalid arithmetic base"
            else if digits.isEmpty then .error "invalid integer constant"
            else ofDigits b digits
      | [] =>
          match cs with
          | '0' :: rest => ofDigits 8 rest
          | cs => ofDigits 10 cs

/-- The greatest number of 64 bits. -/
def greatest : Int := 9223372036854775807

/-- The number that a value writes in the plain family. -/
def plainValue? (text : String) : Option Int :=
  let cs := (text.toList.dropWhile isSpace)
  let cs := (cs.reverse.dropWhile isSpace).reverse
  let (negative, ds) :=
    match cs with
    | '-' :: ds => (true, ds)
    | '+' :: ds => (false, ds)
    | ds => (false, ds)
  match cs, ds with
  | [], _ => some 0
  | _, d :: _ =>
      if d.isDigit then
        let (n, rest) := numberAhead ds
        let n : Int := if negative then -(n : Int) else n
        if rest.isEmpty && -greatest - 1 ≤ n && n ≤ greatest then some n
        else none
      else none
  | _, [] => none

/-- How a sign gives a name a value: by an operator on the old one, if there is
    one. -/
def assignment? : String → Option (Option String)
  | "=" => some none
  | "+=" => some (some "+")
  | "-=" => some (some "-")
  | "*=" => some (some "*")
  | "/=" => some (some "/")
  | "%=" => some (some "%")
  | "&=" => some (some "&")
  | "^=" => some (some "^")
  | "|=" => some (some "|")
  | "<<=" => some (some "<<")
  | ">>=" => some (some ">>")
  | _ => none

/-- What stands up to the bracket that closes the one before, and what
    follows. -/
def subscript? (level : Nat) : List Char → Option (List Char × List Char)
  | [] => none
  | c :: rest =>
      if c = ']' && level = 0 then some ([], rest)
      else
        let level :=
          if c = '[' then level + 1 else if c = ']' then level - 1 else level
        (subscript? level rest).map (fun (a, b) => (c :: a, b))

/-- Whether what follows an operator does not count after a first value. -/
def settles (sign : String) (a : Int) : Bool :=
  (sign = "||" && a != 0) || (sign = "&&" && a = 0)

/-- A key of a table without the quotes around it. -/
def bareKey (s : String) : String :=
  match s.toList with
  | '"' :: rest | '\'' :: rest =>
      if rest.length ≥ 1 && rest.getLast? = s.toList.head? then
        String.ofList rest.dropLast
      else s
  | _ => s

/-- The number that begins here. -/
def number (d : Dialect) (whole : String) : List Char → Calc Int
  | cs => do
      match d with
      | .plain =>
          let (n, rest) := numberAhead cs
          modify (fun s => { s with rest := rest, last := cs })
          return min (n : Int) greatest
      | .extended =>
          let token :=
            cs.takeWhile (fun c => inName c || c = '#' || c = '@')
          modify (fun s =>
            { s with rest := cs.drop token.length, last := cs })
          match constant token with
          | .ok n => return n
          | .error text => fail d whole "" text token

/-- A name, and what stands between brackets after it. -/
def reference (d : Dialect) : Calc (String × Option String) := do
  let s ← get
  let (name, after) := nameAhead s.rest
  match d, after with
  | .extended, '[' :: inside =>
      match subscript? 0 inside with
      | some (index, rest) =>
          set { s with rest := rest, last := s.rest }
          return (name, some (String.ofList index))
      | none =>
          set { s with rest := after, last := s.rest }
          return (name, none)
  | _, _ =>
      set { s with rest := after, last := s.rest }
      return (name, none)

/-- Fail if what follows a name is nothing that can be read. -/
def lookAhead (d : Dialect) (whole : String) (after : List Char) :
    Calc Unit := do
  match d, after with
  | .extended, c :: _ =>
      if c.isDigit then
        let s ← get
        let _ ← number d whole after
        set s
      else if !isKnown c then
        fail d whole "" "syntax error: invalid arithmetic operator" after
  | _, _ => return ()

/-- What is said of an expression that leads to itself. -/
def tooDeep : String := "expression recursion level exceeded"

/-- How many expressions can be worked out inside each other. -/
def mostLevels : Nat := 1024

mutual

/-- The value of an expression. -/
def expression (d : Dialect) (whole : String) : Nat → Bool → Calc Int
  | 0, _ => throw tooDeep
  | fuel + 1, live => do
      let a ← choice d whole fuel live
      blanks
      match d, signAhead? d (← get).rest with
      | .extended, some "," =>
          pass ","
          expression d whole fuel live
      | _, _ => return a

/-- The value of an expression without commas. -/
def choice (d : Dialect) (whole : String) : Nat → Bool → Calc Int
  | 0, _ => throw tooDeep
  | fuel + 1, live => do
      let a ← binary d whole fuel live 0
      blanks
      match signAhead? d (← get).rest with
      | some "?" =>
          pass "?"
          let yes ← expression d whole fuel (live && a != 0)
          blanks
          let s ← get
          match signAhead? d s.rest with
          | some ":" =>
              pass ":"
              let no ← choice d whole fuel (live && a = 0)
              return if a = 0 then no else yes
          | _ =>
              fail d whole "expecting ':'"
                "`:' expected for conditional expression"
                (if s.rest.isEmpty then s.last else s.rest)
      | _ => return a

/-- The value of an expression with operators from a level on. -/
def binary (d : Dialect) (whole : String) : Nat → Bool → Nat → Calc Int
  | 0, _, _ => throw tooDeep
  | fuel + 1, live, level => do
      let a ← raised d whole fuel live
      operators d whole fuel live level a

/-- The operators from a level on after a first value. -/
def operators (d : Dialect) (whole : String) :
    Nat → Bool → Nat → Int → Calc Int
  | 0, _, _, _ => throw tooDeep
  | fuel + 1, live, level, a => do
      blanks
      match (signAhead? d (← get).rest).bind (fun sign =>
        (level? sign).map (fun l => (sign, l))) with
      | none => return a
      | some (sign, l) =>
          if l < level then return a
          else
            pass sign
            blanks
            let start := (← get).rest
            let b ← binary d whole fuel (live && !settles sign a) (l + 1)
            match operate? sign a b with
            | some n => operators d whole fuel live level n
            | none =>
                if live then
                  fail d whole "division by zero" "division by 0" start
                else operators d whole fuel live level 0

/-- The value of a power. -/
def raised (d : Dialect) (whole : String) : Nat → Bool → Calc Int
  | 0, _ => throw tooDeep
  | fuel + 1, live => do
      let a ← operand d whole fuel live
      blanks
      match d, signAhead? d (← get).rest with
      | .extended, some "**" =>
          pass "**"
          let b ← raised d whole fuel live
          if b < 0 then
            if live then
              fail d whole "" "exponent less than 0" (← get).last
            else return 0
          else return power a b.toNat
      | _, _ => return a

/-- The value of an operand with signs in front of it. -/
def operand (d : Dialect) (whole : String) : Nat → Bool → Calc Int
  | 0, _ => throw tooDeep
  | fuel + 1, live => do
      blanks
      let s ← get
      let none' : Calc Int :=
        fail d whole "expecting primary" "syntax error: operand expected"
          (if s.rest.isEmpty then s.last else s.rest)
      match s.rest with
      | [] => none'
      | '(' :: _ =>
          pass "("
          let a ← expression d whole fuel live
          blanks
          let t ← get
          match t.rest with
          | ')' :: _ =>
              pass ")"
              return a
          | _ =>
              fail d whole "expecting ')'" "missing `)'"
                (if t.rest.isEmpty then t.last else t.rest)
      | '-' :: '-' :: more =>
          if d = .extended && startsNext more then
            pass "--"
            counted d fuel live (-1)
          else
            pass "-"
            return wrap (-(← operand d whole fuel live))
      | '+' :: '+' :: more =>
          if d = .extended && startsNext more then
            pass "++"
            counted d fuel live 1
          else
            pass "+"
            operand d whole fuel live
      | '-' :: _ =>
          pass "-"
          return wrap (-(← operand d whole fuel live))
      | '+' :: _ =>
          pass "+"
          operand d whole fuel live
      | '~' :: _ =>
          pass "~"
          return -(← operand d whole fuel live) - 1
      | '!' :: _ =>
          pass "!"
          return truth ((← operand d whole fuel live) == 0)
      | c :: _ =>
          if c.isDigit then number d whole s.rest
          else if startsName c then named d whole fuel live
          else if d = .extended && !isKnown c then
            fail d whole "" "syntax error: operand expected" s.rest
          else none'

/-- The value of a name that is counted up or down first. -/
def counted (d : Dialect) : Nat → Bool → Int → Calc Int
  | 0, _, _ => throw tooDeep
  | fuel + 1, live, amount => do
      blanks
      let (name, index) ← reference d
      if !live then return 0
      else
        let n := wrap ((← valueOf d fuel name index) + amount)
        assignTo d fuel name index n
        return n

/-- The value of a name, which may get one. -/
def named (d : Dialect) (whole : String) : Nat → Bool → Calc Int
  | 0, _ => throw tooDeep
  | fuel + 1, live => do
      let (name, index) ← reference d
      let s ← get
      let after := s.rest.dropWhile isSpace
      let old : Calc Int :=
        if live then valueOf d fuel name index else pure 0
      match d, after with
      | .extended, '+' :: '+' :: _ =>
          pass "++"
          let a ← old
          if live then assignTo d fuel name index (wrap (a + 1))
          return a
      | .extended, '-' :: '-' :: _ =>
          pass "--"
          let a ← old
          if live then assignTo d fuel name index (wrap (a - 1))
          return a
      | _, _ =>
          match (signAhead? d after).bind (fun t =>
            (assignment? t).map (fun op => (t, op))) with
          | none =>
              lookAhead d whole after
              old
          | some (sign, op) =>
              let a ←
                match op with
                | some _ => old
                | none => pure 0
              pass sign
              blanks
              let start := (← get).rest
              let b ← choice d whole fuel live
              let result :=
                match op with
                | none => some b
                | some op => operate? op a b
              match result with
              | some n =>
                  if live then assignTo d fuel name index n
                  return n
              | none =>
                  if live then
                    fail d whole "division by zero" "division by 0" start
                  else return 0

/-- The place of an item, by the value of an expression. -/
def placeOf (d : Dialect) :
    Nat → Content → String → Calc (Option Nat)
  | 0, _, _ => throw tooDeep
  | fuel + 1, c, index => do
      return c.place? (← wholeText d fuel index)

/-- The value of a text as an expression of its own. -/
def wholeText (d : Dialect) : Nat → String → Calc Int
  | 0, _ => throw tooDeep
  | fuel + 1, text => do
      let cs := text.toList
      if (cs.dropWhile isSpace).isEmpty then return 0
      else
        let before ← get
        if mostLevels ≤ before.level then
          fail d before.whole "" tooDeep before.last
        set (⟨cs, cs, text, before.level + 1⟩ : Spot)
        let n ← expression d text fuel true
        blanks
        let s ← get
        match s.rest with
        | [] => pure ()
        | c :: _ =>
            if d = .extended && !isKnown c then
              fail d text "" "syntax error: invalid arithmetic operator" s.rest
            else
              fail d text "expecting EOF" "syntax error in expression" s.rest
        set before
        return n

/-- The number that a name stands for. -/
def valueOf (d : Dialect) : Nat → String → Option String → Calc Int
  | 0, _, _ => throw tooDeep
  | fuel + 1, name, index => do
      let text? : Option String ←
        match index with
        | none => liftAct (textOf? name)
        | some index => do
            let c ← liftAct (contentOf name)
            match c with
            | .table entries => pure (entries.lookup (bareKey index))
            | c => do
                let place ← placeOf d fuel c index
                pure (place.bind (fun p => c.asItems.lookup p))
      match d, text? with
      | .plain, none => return 0
      | .extended, none =>
          if index.isNone && (← liftAct (hasHabit "nounset")) then
            liftAct (missing name)
          else return 0
      | .plain, some text =>
          match plainValue? text with
          | some n => return n
          | none => throw ("Illegal number: " ++ text)
      | .extended, some text => wholeText d fuel text

/-- Give a name a number. -/
def assignTo (d : Dialect) :
    Nat → String → Option String → Int → Calc Unit
  | 0, _, _, _ => throw tooDeep
  | fuel + 1, name, index, n => do
      let text := toString n
      let v ← liftAct (variableOf name)
      if v.fixed && d = .extended then
        let name ← liftAct (resolve name)
        liftAct (complain (name ++ ": readonly variable"))
        throw ""
      match index with
      | none => liftAct (setText name text)
      | some index => do
          let c ← liftAct (contentOf name)
          match c with
          | .table entries =>
              liftAct (setContentOf name
                (.table (Content.insertKey (bareKey index) text entries)))
          | c => do
              match ← placeOf d fuel c index with
              | some place =>
                  liftAct (setContentOf name
                    (.list (Content.insertItem place text c.asItems)))
              | none => throw (name ++ "[" ++ index ++ "]: bad array subscript")

end

/-- More steps than lead from one expression to the deepest one. -/
def depth : Nat := 40000

/-- The value of an arithmetic expression, or a complaint, which is empty if
    it has been made. -/
def evaluate (text : String) : Act (Except String Int) := do
  let d ← dialect
  let cs := text.toList
  if d = .plain && (cs.dropWhile isSpace).isEmpty then
    return .error ("arithmetic expression: expecting primary: \"" ++ text
      ++ "\"")
  else
    let r ← ((wholeText d depth text).run ⟨cs, cs, text, 0⟩).run
    return r.map (·.1)

end Arithmetic
end NodeFlow.Shell
