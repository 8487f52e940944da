import NodeFlow.Shell.Expand
import NodeFlow.Shell.Paths
import NodeFlow.Shell.Regex

/-! # Conditions

    A condition is written by arguments, which each family of shells reads in
    its own way, or by the snippet itself.  It tests texts, numbers and
    files. -/

namespace NodeFlow.Shell

namespace Condition

/-! ## Single tests -/

/-- The number that a text writes, with white space around it. -/
def number? (text : String) : Option Int :=
  let cs := text.toList.dropWhile isSpace
  let (negative, ds) :=
    match cs with
    | '-' :: rest => (true, rest)
    | '+' :: rest => (false, rest)
    | cs => (false, cs)
  let digits := ds.takeWhile Char.isDigit
  let rest := (ds.drop digits.length).dropWhile isSpace
  if digits.isEmpty || !rest.isEmpty then none
  else
    let n : Int := decimalValue digits
    some (if negative then -n else n)

/-- The comparison of numbers that an operator makes. -/
def ordering? (op : String) : Option (Int → Int → Bool) :=
  match op with
  | "-eq" => some (fun a b => a == b)
  | "-ne" => some (fun a b => a != b)
  | "-lt" => some (fun a b => decide (a < b))
  | "-le" => some (fun a b => decide (a ≤ b))
  | "-gt" => some (fun a b => decide (b < a))
  | "-ge" => some (fun a b => decide (b ≤ a))
  | _ => none

/-- Whether a variable, or an item of it, has a value. -/
def isSet (text : String) : Act Bool := do
  match nameAhead text.toList with
  | (name, []) =>
      return !name.isEmpty && (← contentOf name).text?.isSome
  | (name, '[' :: inside) =>
      let c ← contentOf name
      match Arithmetic.subscript? 0 inside with
      | some (index, []) =>
          let key := String.ofList index
          if key = "@" || key = "*" then return !c.values.isEmpty
          else
            match c with
            | .table entries =>
                return (entries.lookup (Arithmetic.bareKey key)).isSome
            | c => do
                match ← Arithmetic.evaluate key with
                | .ok n =>
                    return (c.place? n).any (fun i =>
                      (c.asItems.lookup i).isSome)
                | .error _ => return false
      | _ => return false
  | _ =>
      return isNumber text
        && decide (decimalValue text.toList ≤ (← session).args.length)

/-- Whether a test of a text holds. -/
def holdsOf (op text : String) : Act Bool := do
  match op with
  | "-n" => return !text.isEmpty
  | "-z" => return text.isEmpty
  | "-v" => isSet text
  | "-R" => return (← variableNamed text).refers
  | "-o" => hasHabit text
  | "-t" => return false
  | op =>
      let spot ← spotOf text
      let there :=
        match spot with
        | .vacant _ | .nowhere _ => false
        | _ => true
      let isFile :=
        match spot with
        | .file _ | .program _ => true
        | _ => false
      let isDirectory :=
        match spot with
        | .directory _ | .elsewhere _ => true
        | _ => false
      match op with
      | "-f" => return isFile
      | "-d" => return isDirectory
      | "-s" =>
          match spot with
          | .file way =>
              return !(fileContent (← world).files way).isEmpty
          | .directory _ | .elsewhere _ | .program _ => return true
          | _ => return false
      | "-x" =>
          return isDirectory || (match spot with
            | .program _ => true
            | _ => false)
      | "-c" => return spot == .void || spot == .full
      | "-a" | "-e" | "-r" | "-w" | "-O" | "-G" | "-N" => return there
      | "-k" => return spot == .elsewhere "/tmp"
      | _ => return false
where
  /-- The variable of a name itself. -/
  variableNamed (name : String) : Act Variable := do
    return ((← session).store.get? name).getD {}

/-- Whether two paths lead to the same thing. -/
def leadTogether (a b : String) : Act Bool := do
  match ← spotOf a, ← spotOf b with
  | .file v, .file w => return v == w
  | .directory v, .directory w => return v == w
  | .void, .void => return true
  | .elsewhere p, .elsewhere q | .program p, .program q => return p == q
  | _, _ => return false

/-- Whether something is there at a path. -/
def isThere (path : String) : Act Bool := do
  match ← spotOf path with
  | .vacant _ | .nowhere _ => return false
  | _ => return true

/-- Whether an operator that compares texts or files holds; nothing if there
    is no such operator. -/
def between? (op a b : String) : Act (Option Bool) := do
  match op with
  | "=" | "==" => return some (a == b)
  | "!=" => return some (a != b)
  | "<" => return some (decide (a < b))
  | ">" => return some (decide (b < a))
  | "-ef" => return some (← leadTogether a b)
  | "-nt" => return some ((← isThere a) && !(← isThere b))
  | "-ot" => return some (!(← isThere a) && (← isThere b))
  | _ => return none

/-! ## Conditions of arguments -/

/-- What is wrong with arguments that should be a condition. -/
abbrev Fault : Type := String

/-- A condition that is read from arguments: what is left of them, or a
    fault. -/
abbrev Arguments : Type → Type := ExceptT Fault (StateT (List String) Act)

/-- Whether a comparison holds. -/
def compare (d : Dialect) (op a b : String) : Arguments Bool := do
  match ordering? op with
  | some f =>
      let number (s : String) : Arguments Int :=
        match number? s, d with
        | some n, _ => return n
        | none, .plain => throw ("Illegal number: " ++ s)
        | none, .extended => throw (s ++ ": integer expression expected")
      let m ← number a
      let n ← number b
      return f m n
  | none => return (← liftM (between? op a b)).getD false

/-- The operators between two arguments. -/
def isBinary (d : Dialect) (op : String) : Bool :=
  (ordering? op).isSome
    || ["=", "!=", "<", ">", "-nt", "-ot", "-ef"].contains op
    || (op = "==" && d = .extended)

/-- The operators in front of an argument. -/
def isUnary (d : Dialect) (op : String) : Bool :=
  match op.toList with
  | ['-', c] =>
      match d with
      | .plain => "rwxefdcbpugkstznhOGLS".toList.contains c
      | .extended => "abcdefghknoprstuvwxzGLOSNR".toList.contains c
  | _ => false

/-- Take an argument. -/
def advance : Arguments Unit := do
  set (← getThe (List String)).tail

/-! ### The plain family -/

/-- What an argument is where an operand may stand. -/
inductive Token where
  /-- There is no argument. -/
  | none
  /-- An operand. -/
  | operand
  /-- An operator in front of an argument. -/
  | unary
  /-- An operator between two arguments. -/
  | binary
  /-- Another sign. -/
  | sign
  deriving DecidableEq, Repr

/-- What the first of some arguments is. -/
def token : List String → Token
  | [] => .none
  | s :: rest =>
      if isUnary .plain s then
        match rest with
        | [] => .operand
        | [_] => .unary
        | op :: _ => if isBinary .plain op then .operand else .unary
      else if isBinary .plain s then .binary
      else if s = "(" then if rest.isEmpty then .operand else .sign
      else if ["!", "-a", "-o", ")"].contains s then .sign
      else .operand

/-- The arguments from the next one on. -/
def following : Arguments (List String) := do
  return (← getThe (List String)).tail

/-- Whether an argument is a sign. -/
def isSignAhead (args : List String) (sign : String) : Bool :=
  token args = .sign && args.head? = some sign

mutual

/-- Conditions joined by `-o`.  The last argument that was read stays. -/
def plainAny : Nat → Token → Arguments Bool
  | 0, _ => throw "closing paren expected"
  | fuel + 1, t => do
      let a ← plainAll fuel t
      if isSignAhead (← following) "-o" then
        advance
        advance
        let b ← plainAny fuel (token (← getThe (List String)))
        return a || b
      else return a

/-- Conditions joined by `-a`. -/
def plainAll : Nat → Token → Arguments Bool
  | 0, _ => throw "closing paren expected"
  | fuel + 1, t => do
      let a ← plainNot fuel t
      if isSignAhead (← following) "-a" then
        advance
        advance
        let b ← plainAll fuel (token (← getThe (List String)))
        return a && b
      else return a

/-- A condition or its opposite. -/
def plainNot : Nat → Token → Arguments Bool
  | 0, _ => throw "closing paren expected"
  | fuel + 1, t => do
      let args ← getThe (List String)
      if t = .sign && args.head? = some "!" then
        let next := token args.tail
        if next != .none then advance
        return !(← plainNot fuel next)
      else plainOne fuel t

/-- A single condition. -/
def plainOne : Nat → Token → Arguments Bool
  | 0, _ => throw "closing paren expected"
  | fuel + 1, t => do
      let args ← getThe (List String)
      match t, args with
      | .none, _ | _, [] => return false
      | t, arg :: rest =>
          if t = .sign && arg = "(" then
            advance
            if rest.head? = some ")" then return false
            else
              let v ← plainAny fuel (token rest)
              advance
              if isSignAhead (← getThe (List String)) ")" then return v
              else throw "closing paren expected"
          else if t = .unary then
            match rest with
            | [] => throw (arg ++ ": argument expected")
            | operand :: _ =>
                advance
                liftM (holdsOf arg operand)
          else
            match rest with
            | op :: more =>
                if token rest = .binary then
                  match more with
                  | [] => throw (op ++ ": argument expected")
                  | b :: _ =>
                      advance
                      advance
                      compare .plain op arg b
                else return !arg.isEmpty
            | [] => return !arg.isEmpty

end

/-- Whether the condition that arguments write holds, for the plain family;
    `inverse` has been read before. -/
def plain : Nat → Bool → List String → Arguments Bool
  | 0, _, _ => throw "closing paren expected"
  | fuel + 1, inverse, args => do
      let whole (args : List String) (t : Token) : Arguments Bool := do
        set args
        let v ← plainAny (4 * args.length + 8) t
        match ← getThe (List String) with
        | a :: _ :: _ =>
            throw (if a.isEmpty then "unexpected operator"
              else a ++ ": unexpected operator")
        | _ => return v != inverse
      let few := args.length = 3 || args.length = 4
      match args with
      | [] => return inverse
      | first :: rest =>
          if args.length = 3 && rest.head?.any (isBinary .plain) then
            whole args .operand
          else if few && first = "(" && args.getLast? = some ")" then
            whole rest.dropLast (token rest.dropLast)
          else if few && first = "!" then plain fuel (!inverse) rest
          else whole args (token args)

/-! ### The extended family -/

/-- Take an argument behind which another one must stand. -/
def advanceTo : Arguments Unit := do
  advance
  if (← getThe (List String)).isEmpty then throw "argument expected"

/-- A condition with an operator in front of an argument. -/
def unary (op arg : String) : Arguments Bool := liftM (holdsOf op arg)

mutual

/-- Conditions joined by `-o`. -/
def anyOf : Nat → Arguments Bool
  | 0 => throw "argument expected"
  | fuel + 1 => do
      if (← getThe (List String)).isEmpty then throw "argument expected"
      let a ← allOf fuel
      match ← getThe (List String) with
      | "-o" :: _ =>
          advance
          let b ← anyOf fuel
          return a || b
      | _ => return a

/-- Conditions joined by `-a`. -/
def allOf : Nat → Arguments Bool
  | 0 => throw "argument expected"
  | fuel + 1 => do
      let a ← term fuel
      match ← getThe (List String) with
      | "-a" :: _ =>
          advance
          let b ← allOf fuel
          return a && b
      | _ => return a

/-- A condition that is not joined. -/
def term : Nat → Arguments Bool
  | 0 => throw "argument expected"
  | fuel + 1 => do
      match ← getThe (List String) with
      | [] => throw "argument expected"
      | "!" :: _ =>
          advanceTo
          return !(← term fuel)
      | "(" :: _ =>
          advanceTo
          let v ← anyOf fuel
          match ← getThe (List String) with
          | ")" :: _ =>
              advance
              return v
          | [] => throw "\x60)' expected"
          | other :: _ => throw ("\x60)' expected, found " ++ other)
      | a :: op :: b :: rest =>
          if isBinary .extended op then
            set rest
            compare .extended op a b
          else if isUnary .extended a then
            set (b :: rest)
            unary a op
          else
            advance
            return !a.isEmpty
      | [a, b] =>
          if isUnary .extended a then
            set ([] : List String)
            unary a b
          else
            advance
            return !a.isEmpty
      | [a] =>
          advance
          return !a.isEmpty

end

/-- A condition of two arguments. -/
def ofTwo (a b : String) : Arguments Bool := do
  if a = "!" then return b.isEmpty
  else if isUnary .extended a then unary a b
  else throw (a ++ ": unary operator expected")

/-- A condition of three arguments. -/
def ofThree (a op b : String) : Arguments Bool := do
  if isBinary .extended op then compare .extended op a b
  else if op = "-a" then return !a.isEmpty && !b.isEmpty
  else if op = "-o" then return !a.isEmpty || !b.isEmpty
  else if a = "!" then return !(← ofTwo op b)
  else if a = "(" && b.startsWith ")" then return !op.isEmpty
  else throw (op ++ ": binary operator expected")

/-- Whether the condition that arguments write holds, for the extended
    family. -/
def extended (args : List String) : Arguments Bool := do
  let whole : Arguments Bool := do
    set args
    let v ← anyOf (4 * args.length + 8)
    match ← getThe (List String) with
    | [] => return v
    | a :: _ =>
        if a.startsWith "-" then
          throw ("syntax error: \x60" ++ a ++ "' unexpected")
        else throw "too many arguments"
  match args with
  | [] => return false
  | [a] => return !a.isEmpty
  | [a, b] => ofTwo a b
  | [a, op, b] => ofThree a op b
  | ["!", a, op, b] => return !(← ofThree a op b)
  | ["(", a, b, ")"] => ofTwo a b
  | _ => whole

/-- Whether the condition that arguments write holds. -/
def ofArguments (args : List String) : Act (Except Fault Bool) := do
  let a : Arguments Bool ←
    match ← dialect with
    | .plain => pure (plain (args.length + 1) false args)
    | .extended => pure (extended args)
  return (← (a.run.run args)).1

/-- The status of a condition that a command of a name is given. -/
def status (name : String) (args : List String) : Act Nat := do
  match ← ofArguments args with
  | .ok true => return 0
  | .ok false => return 1
  | .error e =>
      complain (name ++ ": " ++ e)
      return 2

/-- The status of a condition between brackets. -/
def bracketStatus (args : List String) : Act Nat := do
  if args.getLast? = some "]" then status "[" args.dropLast
  else
    match ← dialect with
    | .plain => complain "[: missing ]"
    | .extended => complain "[: missing \x60]'"
    return 2

/-! ## Conditions of a snippet -/

variable (r : Runner)

/-- The value of an operand of a comparison of numbers. -/
def operand (text : String) : ExceptT Nat Act Int := do
  match ← liftM (Arithmetic.evaluate text) with
  | .ok n => return n
  | .error e =>
      unless e.isEmpty do liftM (protest ("[[: " ++ e))
      throw 1

/-- Match a regular expression, and remember what it has matched. -/
def matchRegex (text : String) (letters : List Letter) :
    ExceptT Nat Act Bool := do
  let s ← liftM session
  match Regex.ofMarks (marksOf s.encoding letters) with
  | none => throw 2
  | some re =>
      let gs := Octets.glyphs s.encoding text.toList
      match re.find? (s.features.contains "nocasematch") none gs with
      | none =>
          liftM (change (fun s => { s with matched := [] }))
          return false
      | some m =>
          let textOf (gs : List Glyph) : String := String.ofList gs.flatten
          let groups := (List.range re.groupCount).map (fun i =>
            ((m.groups.lookup (i + 1)).map textOf).getD "")
          liftM (change (fun s =>
            { s with matched := textOf m.text :: groups }))
          return true

/-- Show a single condition, if the shell traces what it does. -/
def trace (inverse : Bool) (words : List String) : Act Unit :=
  let all := ["[["] ++ (if inverse then ["!"] else []) ++ words ++ ["]]"]
  r.trace (pure (" ".intercalate all))

/-- An operand as it is shown. -/
def shown (text : String) : String := if text.isEmpty then "''" else text

/-- A pattern as it is shown, with a backslash in front of each quoted
    character that could have a meaning. -/
def shownPattern (mayMean : Char → Bool) (letters : List Letter) : String :=
  shown (String.ofList (letters.flatMap (fun (c, quoted) =>
    if quoted && mayMean c then ['\\', c] else [c])))

/-- Whether a condition of a snippet holds, or a status.  It is the opposite of
    what is asked, if `inverse`. -/
def holds (inverse : Bool) : Test → ExceptT Nat Act Bool
  | .word w => do
      let text ← liftM (Expand.oneField r w)
      liftM (trace r inverse ["-n", shown text])
      return !text.isEmpty
  | .unary op w => do
      let text ← liftM (Expand.oneField r w)
      liftM (trace r inverse [op, shown text])
      liftM (holdsOf op text)
  | .binary a c b => do
      let left ← liftM (Expand.oneField r a)
      match c with
      | .fits op =>
          let letters ← liftM (Expand.letters r b)
          let s ← liftM session
          let p := Pattern.ofMarks true (marksOf s.encoding letters)
          liftM (trace r inverse [shown left, op, shownPattern (fun _ => true) letters])
          let fits :=
            p.fits (s.features.contains "nocasematch")
              (Octets.glyphs s.encoding left.toList)
          return fits == (op != "!=")
      | .matches =>
          let letters ← liftM (Expand.letters r b)
          let signs := ".[\\()*+?\x7b|^$".toList
          let pattern := shownPattern signs.contains letters
          liftM (trace r inverse [shown left, "=~", pattern])
          matchRegex left letters
      | .operator op =>
          let right ← liftM (Expand.oneField r b)
          liftM (trace r inverse [shown left, op, shown right])
          match ordering? op with
          | some f =>
              let m ← operand left
              let n ← operand right
              return f m n
          | none => return (← liftM (between? op left right)).getD false
  | .not t => do return !(← holds (!inverse) t)
  | .and a b => do if ← holds false a then holds false b else return false
  | .or a b => do if ← holds false a then return true else holds false b
  | .group t => holds inverse t

/-- The status of a condition of a snippet. -/
def statusOf (t : Test) : Act Nat := do
  match ← (holds r false t).run with
  | .ok true => return 0
  | .ok false => return 1
  | .error status => return status

end Condition
end NodeFlow.Shell
