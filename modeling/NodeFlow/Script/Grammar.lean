import NodeFlow.Script.Expr
import NodeFlow.Script.Token

/-! # The grammar of scripts

    The reader takes the tokens from left to right.  Each of its functions
    answers what it has read and the tokens that follow.  Their fuel bounds
    the depth of the calls; `Stmt.ofText?` provides more than a script of its
    length can use up.

    A script is the body of a function.  A closing brace that closes nothing
    ends it, whatever follows. -/

namespace NodeFlow.Script

/-- The words that cannot be names. -/
def reserved : List String :=
  ["break", "case", "catch", "class", "const", "continue", "debugger",
    "default", "delete", "do", "else", "enum", "export", "extends", "false",
    "finally", "for", "function", "if", "import", "in", "instanceof", "new",
    "null", "return", "super", "switch", "this", "throw", "true", "try",
    "typeof", "var", "void", "while", "with"]

/-- The tokens that follow what has been read. -/
abbrev Rest : Type := List Lexeme

/-- Take a mark. -/
def takeMark? (m : String) : List Lexeme → Option (List Lexeme)
  | ⟨.mark n, _⟩ :: rest => if n = m then some rest else none
  | _ => none

/-- Take a word. -/
def takeWord? (w : String) : List Lexeme → Option (List Lexeme)
  | ⟨.word v false, _⟩ :: rest => if v = w then some rest else none
  | _ => none

/-- Take the name of something declared. -/
def takeName? : List Lexeme → Option (String × Rest)
  | ⟨.word w _, _⟩ :: rest => if reserved.contains w then none else some (w, rest)
  | _ => none

/-- The end of a statement: a semicolon, or the end of a group, of a line or
    of the script. -/
def endStatement : List Lexeme → Option (List Lexeme)
  | [] => some []
  | ⟨.mark ";", _⟩ :: rest => some rest
  | ⟨.mark "\x7d", b⟩ :: rest => some (⟨.mark "\x7d", b⟩ :: rest)
  | t :: rest => if t.afterBreak then some (t :: rest) else none

/-- The name of a member: a word, a text or a number. -/
def memberKey : Token → Option (List Nat)
  | .word w _ => some (Text.units w)
  | .text units => some units
  | .number n => some (Text.units n.text)
  | .big n => some (Text.units (toString n))
  | _ => none

/-- The operators of each level of precedence, the weakest first. -/
def operatorLevels : List (List (String × Operator)) :=
  [[("|", .either)], [("^", .only)], [("&", .both)],
    [("==", .alike true), ("!=", .alike false), ("===", .same true),
      ("!==", .same false)],
    [("<", .less false), ("<=", .less true), (">", .greater false),
      (">=", .greater true), ("instanceof", .madeBy), ("in", .member)],
    [("<<", .left), (">>", .right), (">>>", .down)],
    [("+", .plus), ("-", .minus)],
    [("*", .times), ("/", .over), ("%", .rest)]]

/-- The operator of a token among those of a level. -/
def operatorAmong (level : List (String × Operator)) : Token → Option Operator
  | .mark m => level.lookup m
  | .word w false => level.lookup w
  | _ => none

/-- The operator in front of an expression that a token is. -/
def unaryOf? : Token → Option UnaryOperator
  | .mark "-" => some .minus
  | .mark "+" => some .plus
  | .mark "!" => some .not
  | .mark "~" => some .flip
  | .word "typeof" false => some .kind
  | .word "void" false => some .nothing
  | _ => none

/-- How a mark gives a name a value. -/
def assignment? : String → Option (Option Operator ⊕ Decision)
  | "=" => some (.inl none)
  | "+=" => some (.inl (some .plus))
  | "-=" => some (.inl (some .minus))
  | "*=" => some (.inl (some .times))
  | "/=" => some (.inl (some .over))
  | "%=" => some (.inl (some .rest))
  | "**=" => some (.inl (some .power))
  | "&=" => some (.inl (some .both))
  | "|=" => some (.inl (some .either))
  | "^=" => some (.inl (some .only))
  | "<<=" => some (.inl (some .left))
  | ">>=" => some (.inl (some .right))
  | ">>>=" => some (.inl (some .down))
  | "&&=" => some (.inr .and)
  | "||=" => some (.inr .or)
  | "??=" => some (.inr .orElse)
  | _ => none

/-- The expression that a word is, unless the word is reserved. -/
def nameExpr? (w : String) (escaped : Bool) : Option Expr :=
  if reserved.contains w && escaped then none
  else
    match w with
    | "true" => some (.literal (.bool true))
    | "false" => some (.literal (.bool false))
    | "null" => some (.literal .null)
    | "this" => some .itself
    | w => if reserved.contains w then none else some (.name w)

/-- A function without a name gets one. -/
def namedFunction (name : List Nat) : Expr → Expr
  | .function [] parameters arrow body => .function name parameters arrow body
  | e => e

/-- The word that declares names. -/
def bindingOf? : String → Option Binding
  | "let" => some .lexical
  | "const" => some .constant
  | "var" => some .variable
  | _ => none

/-- Whether a token may follow the word `let` in a declaration. -/
def mayFollowLet : List Lexeme → Bool
  | ⟨.word w _, _⟩ :: _ => !reserved.contains w && w != "of"
  | ⟨.mark m, _⟩ :: _ => m = "[" || m = "\x7b"
  | _ => false

/-- The declaring word at the beginning, if it declares. -/
def takeBinding? : List Lexeme → Option (Binding × Rest)
  | ⟨.word w false, _⟩ :: ts =>
      match bindingOf? w with
      | some .lexical => if mayFollowLet ts then some (.lexical, ts) else none
      | some how => some (how, ts)
      | none => none
  | _ => none

/-- The names that a taker gives values. -/
def Taker.names : Taker → List String
  | .name s => [s]
  | .members parts rest => namesOfMembers parts ++ rest.toList
  | .items parts rest => namesOfItems parts ++ namesOfRest rest
  | .withDefault taker _ => taker.names
where
  /-- The names that the parts of an object give values. -/
  namesOfMembers : List (Expr × Taker) → List String
    | [] => []
    | (_, t) :: more => t.names ++ namesOfMembers more
  /-- The names that the parts of a list give values. -/
  namesOfItems : List (Option Taker) → List String
    | [] => []
    | none :: more => namesOfItems more
    | some t :: more => t.names ++ namesOfItems more
  /-- The names that what is left gives values. -/
  namesOfRest : Option Taker → List String
    | none => []
    | some t => t.names

namespace Stmt

/-- The names that a statement declares for the statements beside it. -/
def lexicalNames : Stmt → List String
  | .declare .variable _ _ => []
  | .declare _ taker _ => taker.names
  | _ => []

/-- The names of the functions that statements define. -/
def definedNames (body : List Stmt) : List String :=
  body.filterMap (fun s =>
    match s with
    | .define name _ => some name
    | _ => none)

mutual

/-- The names that a statement declares for the whole function. -/
def variableNames : Stmt → List String
  | .declare .variable taker _ => taker.names
  | .repeat _ body _ => body.variableNames
  | .loop start _ _ body => variableNamesAll start ++ body.variableNames
  | .each how taker _ _ body =>
      (if how = .variable then taker.names else []) ++ body.variableNames
  | .choose _ yes no => yes.variableNames ++ no.variableNames
  | .select _ cases => variableNamesCases cases
  | .block body => variableNamesAll body
  | .attempt body _ handler finish =>
      variableNamesAll body ++ variableNamesHandler handler
        ++ variableNamesAll finish
  | .labelled _ body => body.variableNames
  | _ => []

/-- The names that statements declare for the whole function. -/
def variableNamesAll : List Stmt → List String
  | [] => []
  | s :: rest => s.variableNames ++ variableNamesAll rest

/-- The names that cases declare for the whole function. -/
def variableNamesCases : List (Option Expr × List Stmt) → List String
  | [] => []
  | (_, body) :: rest => variableNamesAll body ++ variableNamesCases rest

/-- The names that a handler declares for the whole function. -/
def variableNamesHandler : Option (List Stmt) → List String
  | none => []
  | some body => variableNamesAll body

end

/-- Whether no name is declared twice for the same statements: `taken` are
    names that have another meaning there. -/
def soundNames (taken : List String) (body : List Stmt) : Bool :=
  let names := body.flatMap lexicalNames
  decide names.Nodup
    && names.all (fun n =>
      !(taken ++ variableNamesAll body ++ definedNames body).contains n)

end Stmt

/-- The names of parameters. -/
def parameterNames (ps : List Parameter) : List String :=
  ps.flatMap (fun p =>
    match p with
    | .mk taker _ => taker.names)

/-- Whether an object names its parent once at most. -/
def soundMembers (ms : List Member) : Bool :=
  (ms.filter (fun m =>
    match m with
    | .parent _ => true
    | _ => false)).length ≤ 1

/-- The label on the same line, if there is one, and what follows. -/
def labelAhead : List Lexeme → Option String × Rest
  | ⟨.word w e, false⟩ :: rest =>
      if reserved.contains w then (none, ⟨.word w e, false⟩ :: rest)
      else (some w, rest)
  | ts => (none, ts)

mutual

/-- An expression: one or more with commas between them. -/
def expression : Nat → List Lexeme → Option (Expr × Rest)
  | 0, _ => none
  | fuel + 1, ts => do
      let (a, ts) ← assignment fuel ts
      match takeMark? "," ts with
      | some ts => do
          let (b, ts) ← expression fuel ts
          some (.sequence a b, ts)
      | none => some (a, ts)

/-- An expression without commas around it. -/
def assignment : Nat → List Lexeme → Option (Expr × Rest)
  | 0, _ => none
  | fuel + 1, ts =>
      match arrow fuel ts with
      | some found => some found
      | none =>
          match ts with
          | ⟨.word w e, b⟩ :: ⟨.mark m, c⟩ :: rest =>
              match assignment? m, reserved.contains w with
              | some (.inl op), false => do
                  let (a, ts) ← assignment fuel rest
                  some
                    (.assign w op
                      (if op.isNone then namedFunction (Text.units w) a else a),
                      ts)
              | some (.inr d), false => do
                  let (a, ts) ← assignment fuel rest
                  some (.assignUnless w d a, ts)
              | _, _ => conditional fuel (⟨.word w e, b⟩ :: ⟨.mark m, c⟩ :: rest)
          | ts => conditional fuel ts

/-- A function written with an arrow. -/
def arrow : Nat → List Lexeme → Option (Expr × Rest)
  | 0, _ => none
  | fuel + 1, ts => do
      let (ps, ts) ←
        match ts with
        | ⟨.mark "(", _⟩ :: rest => parameters fuel rest
        | ts => do
            let (name, rest) ← takeName? ts
            some ([.mk (.name name) false], rest)
      match ts with
      | ⟨.mark "=>", false⟩ :: ⟨.mark "\x7b", _⟩ :: rest => do
          let (body, ts) ← functionBody fuel ps rest
          some (.function [] ps true body, ts)
      | ⟨.mark "=>", false⟩ :: rest => do
          let (a, ts) ← assignment fuel rest
          some (.function [] ps true [.ret a], ts)
      | _ => none

/-- A choice, or an expression with weaker operators than those. -/
def conditional : Nat → List Lexeme → Option (Expr × Rest)
  | 0, _ => none
  | fuel + 1, ts => do
      let (c, ts) ← decision fuel ts
      match takeMark? "?" ts with
      | some ts => do
          let (yes, ts) ← assignment fuel ts
          let (no, ts) ← assignment fuel (← takeMark? ":" ts)
          some (.choice c yes no, ts)
      | none => some (c, ts)

/-- Expressions of which one decides.  Defaults for missing values cannot be
    mixed with the others. -/
def decision : Nat → List Lexeme → Option (Expr × Rest)
  | 0, _ => none
  | fuel + 1, ts => do
      let (a, ts) ← binary fuel operatorLevels ts
      match ts with
      | ⟨.mark "??", _⟩ :: _ => do
          let (a, ts) ← defaults fuel a ts
          match ts with
          | ⟨.mark "||", _⟩ :: _ | ⟨.mark "&&", _⟩ :: _ => none
          | ts => some (a, ts)
      | ts => do
          let (a, ts) ← conjunction fuel a ts
          let (a, ts) ← disjunction fuel a ts
          match ts with
          | ⟨.mark "??", _⟩ :: _ => none
          | ts => some (a, ts)

/-- Defaults for missing values after a first expression. -/
def defaults : Nat → Expr → List Lexeme → Option (Expr × Rest)
  | 0, _, _ => none
  | fuel + 1, a, ts =>
      match takeMark? "??" ts with
      | some ts => do
          let (b, ts) ← binary fuel operatorLevels ts
          defaults fuel (.decide .orElse a b) ts
      | none => some (a, ts)

/-- Expressions that must all count as true, after a first one. -/
def conjunction : Nat → Expr → List Lexeme → Option (Expr × Rest)
  | 0, _, _ => none
  | fuel + 1, a, ts =>
      match takeMark? "&&" ts with
      | some ts => do
          let (b, ts) ← binary fuel operatorLevels ts
          conjunction fuel (.decide .and a b) ts
      | none => some (a, ts)

/-- Expressions of which one must count as true, after a first one. -/
def disjunction : Nat → Expr → List Lexeme → Option (Expr × Rest)
  | 0, _, _ => none
  | fuel + 1, a, ts =>
      match takeMark? "||" ts with
      | some ts => do
          let (b, ts) ← binary fuel operatorLevels ts
          let (b, ts) ← conjunction fuel b ts
          disjunction fuel (.decide .or a b) ts
      | none => some (a, ts)

/-- An expression with operators of these levels. -/
def binary : Nat → List (List (String × Operator)) → List Lexeme → Option (Expr × Rest)
  | 0, _, _ => none
  | fuel + 1, [], ts => power fuel ts
  | fuel + 1, level :: tighter, ts => do
      let (a, ts) ← binary fuel tighter ts
      operators fuel level tighter a ts

/-- The operators of a level after a first expression. -/
def operators : Nat → List (String × Operator) →
    List (List (String × Operator)) → Expr → List Lexeme → Option (Expr × Rest)
  | 0, _, _, _, _ => none
  | _ + 1, _, _, a, [] => some (a, [])
  | fuel + 1, level, tighter, a, t :: ts =>
      match operatorAmong level t.token with
      | none => some (a, t :: ts)
      | some op => do
          let (b, ts) ← binary fuel tighter ts
          operators fuel level tighter (.binary op a b) ts

/-- A power.  An expression with an operator in front has none. -/
def power : Nat → List Lexeme → Option (Expr × Rest)
  | 0, _ => none
  | fuel + 1, ts => do
      let signed := (ts.head?.bind (fun t => unaryOf? t.token)).isSome
      let (a, ts) ← unary fuel ts
      match takeMark? "**" ts with
      | some ts =>
          if signed then none
          else do
            let (b, ts) ← power fuel ts
            some (.binary .power a b, ts)
      | none => some (a, ts)

/-- An expression with operators in front of it or a count around it. -/
def unary : Nat → List Lexeme → Option (Expr × Rest)
  | 0, _ => none
  | fuel + 1, ts =>
      match ts with
      | ⟨.mark "++", _⟩ :: rest => do
          let (name, ts) ← takeName? rest
          some (.count name false false, ts)
      | ⟨.mark "--", _⟩ :: rest => do
          let (name, ts) ← takeName? rest
          some (.count name true false, ts)
      | ts =>
          match ts.head?.bind (fun t => unaryOf? t.token) with
          | some op => do
              let (a, ts) ← unary fuel ts.tail
              some (.unary op a, ts)
          | none => do
              let (a, ts) ← primary fuel ts
              let (a, ts) ← suffixes fuel true false a ts
              match a, ts with
              | .name w, ⟨.mark "++", false⟩ :: rest =>
                  some (.count w false true, rest)
              | .name w, ⟨.mark "--", false⟩ :: rest =>
                  some (.count w true true, rest)
              | a, ts => some (a, ts)

/-- Properties and calls after an expression; no calls unless `calls`.  A
    chain has parts that are worked out only for a value that is present. -/
def suffixes : Nat → Bool → Bool → Expr → List Lexeme → Option (Expr × Rest)
  | 0, _, _, _, _ => none
  | fuel + 1, calls, chained, a, ts =>
      match ts with
      | ⟨.mark ".", _⟩ :: ⟨.word w _, _⟩ :: ts =>
          suffixes fuel calls chained (.property a (Text.units w)) ts
      | ⟨.mark ".", _⟩ :: _ => none
      | ⟨.mark "[", _⟩ :: ts => do
          let (k, ts) ← expression fuel ts
          suffixes fuel calls chained (.index a k) (← takeMark? "]" ts)
      | ⟨.mark "(", b⟩ :: ts =>
          if calls then do
            let (args, ts) ← items fuel ")" ts
            suffixes fuel calls chained (.call a args) ts
          else some (a, ⟨.mark "(", b⟩ :: ts)
      | ⟨.mark "?.", _⟩ :: ts =>
          if !calls then none
          else
            match ts with
            | ⟨.word w _, _⟩ :: ts =>
                suffixes fuel calls true
                  (.property (.present a) (Text.units w)) ts
            | ⟨.mark "[", _⟩ :: ts => do
                let (k, ts) ← expression fuel ts
                suffixes fuel calls true (.index (.present a) k)
                  (← takeMark? "]" ts)
            | ⟨.mark "(", _⟩ :: ts => do
                let (args, ts) ← items fuel ")" ts
                suffixes fuel calls true (.call (.present a) args) ts
            | _ => none
      | ⟨.opening _ _, _⟩ :: _ => none
      | ts => some (if chained then .chain a else a, ts)

/-- Expressions with commas between them, up to a closing mark.  A comma may
    stand before the mark; in a list, commas may follow each other, and no
    value stands between them. -/
def items : Nat → String → List Lexeme → Option ((List Expr) × Rest)
  | 0, _, _ => none
  | fuel + 1, close, ts =>
      match takeMark? close ts, takeMark? "," ts, takeMark? "..." ts with
      | some ts, _, _ => some ([], ts)
      | none, some ts, _ =>
          if close = "]" then do
            let (others, ts) ← items fuel close ts
            some (.literal .undefined :: others, ts)
          else none
      | none, none, some ts => do
          let (a, ts) ← assignment fuel ts
          itemsAfter fuel close (.spread a) ts
      | none, none, none => do
          let (a, ts) ← assignment fuel ts
          itemsAfter fuel close a ts

/-- Expressions after a first one, up to a closing mark. -/
def itemsAfter : Nat → String → Expr → List Lexeme → Option ((List Expr) × Rest)
  | 0, _, _, _ => none
  | fuel + 1, close, a, ts =>
      match takeMark? "," ts with
      | some ts => do
          let (others, ts) ← items fuel close ts
          some (a :: others, ts)
      | none => do some ([a], ← takeMark? close ts)

/-- Members with commas between them, up to the end of the object. -/
def members : Nat → List Lexeme → Option ((List Member) × Rest)
  | 0, _ => none
  | fuel + 1, ts =>
      match takeMark? "\x7d" ts with
      | some ts => some ([], ts)
      | none => do
          let (m, ts) ← member fuel ts
          match takeMark? "," ts with
          | some ts => do
              let (others, ts) ← members fuel ts
              some (m :: others, ts)
          | none => do some ([m], ← takeMark? "\x7d" ts)

/-- A member of an object. -/
def member : Nat → List Lexeme → Option (Member × Rest)
  | 0, _ => none
  | fuel + 1, ts =>
      match ts with
      | ⟨.mark "...", _⟩ :: ts => do
          let (a, ts) ← assignment fuel ts
          some (.spread a, ts)
      | ⟨.mark "[", _⟩ :: ts => do
          let (k, ts) ← assignment fuel ts
          match ← takeMark? "]" ts with
          | ⟨.mark "(", _⟩ :: ts => do
              let (f, ts) ← method fuel [] ts
              some (.computed k f, ts)
          | ts => do
              let (a, ts) ← assignment fuel (← takeMark? ":" ts)
              some (.computed k a, ts)
      | t :: ts => do
          let key ← memberKey t.token
          match ts, t.token with
          | ⟨.mark ":", _⟩ :: ts, _ => do
              let (a, ts) ← assignment fuel ts
              if key = Text.units "__proto__" then some (.parent a, ts)
              else some (.named key (namedFunction key a), ts)
          | ⟨.mark "(", _⟩ :: ts, _ => do
              let (f, ts) ← method fuel key ts
              some (.named key f, ts)
          | ts, .word w e =>
              if w = "this" || w = "true" || w = "false" || w = "null" then none
              else do some (.named key (← nameExpr? w e), ts)
          | _, _ => none
      | [] => none

/-- A function after the opening parenthesis of its parameters. -/
def method : Nat → List Nat → List Lexeme → Option (Expr × Rest)
  | 0, _, _ => none
  | fuel + 1, name, ts => do
      let (ps, ts) ← parameters fuel ts
      let (body, ts) ← functionBody fuel ps (← takeMark? "\x7b" ts)
      some (.function name ps false body, ts)

/-- Parameters with commas between them, up to the closing parenthesis. -/
def parameters : Nat → List Lexeme → Option ((List Parameter) × Rest)
  | 0, _ => none
  | fuel + 1, ts =>
      match takeMark? ")" ts, takeMark? "..." ts with
      | some ts, _ => some ([], ts)
      | none, some ts => do
          let (t, ts) ← taker fuel ts
          some ([.mk t true], ← takeMark? ")" ts)
      | none, none => do
          let (t, ts) ← takerOrDefault fuel ts
          match takeMark? "," ts with
          | some ts => do
              let (others, ts) ← parameters fuel ts
              some (.mk t false :: others, ts)
          | none => do some ([.mk t false], ← takeMark? ")" ts)

/-- What takes a value, and what it takes in place of a missing one. -/
def takerOrDefault : Nat → List Lexeme → Option (Taker × Rest)
  | 0, _ => none
  | fuel + 1, ts => do
      let (t, ts) ← taker fuel ts
      match takeMark? "=" ts with
      | some ts => do
          let (a, ts) ← assignment fuel ts
          some (.withDefault t a, ts)
      | none => some (t, ts)

/-- What takes a value. -/
def taker : Nat → List Lexeme → Option (Taker × Rest)
  | 0, _ => none
  | fuel + 1, ts =>
      match ts with
      | ⟨.mark "\x7b", _⟩ :: ts => takerMembers fuel [] ts
      | ⟨.mark "[", _⟩ :: ts => takerItems fuel [] ts
      | ts => do
          let (name, ts) ← takeName? ts
          some (.name name, ts)

/-- What takes the properties of a value, up to the closing brace. -/
def takerMembers : Nat → List (Expr × Taker) → List Lexeme → Option (Taker × Rest)
  | 0, _, _ => none
  | fuel + 1, parts, ts =>
      match ts with
      | ⟨.mark "\x7d", _⟩ :: ts => some (.members parts none, ts)
      | ⟨.mark "...", _⟩ :: ts => do
          let (name, ts) ← takeName? ts
          some (.members parts (some name), ← takeMark? "\x7d" ts)
      | ts => do
          let (part, ts) ← takerMember fuel ts
          match takeMark? "," ts with
          | some ts => takerMembers fuel (parts ++ [part]) ts
          | none => do
              some (.members (parts ++ [part]) none, ← takeMark? "\x7d" ts)

/-- What takes one property of a value. -/
def takerMember : Nat → List Lexeme → Option ((Expr × Taker) × Rest)
  | 0, _ => none
  | fuel + 1, ts =>
      match ts with
      | ⟨.mark "[", _⟩ :: ts => do
          let (k, ts) ← assignment fuel ts
          let ts ← takeMark? ":" (← takeMark? "]" ts)
          let (t, ts) ← takerOrDefault fuel ts
          some ((k, t), ts)
      | t :: ⟨.mark ":", _⟩ :: ts => do
          let key ← memberKey t.token
          let (t, ts) ← takerOrDefault fuel ts
          some ((.literal (.text key), t), ts)
      | ts => do
          let (name, _) ← takeName? ts
          let (t, ts) ← takerOrDefault fuel ts
          some ((.literal (.text (Text.units name)), t), ts)

/-- What takes the items of a value, up to the closing bracket. -/
def takerItems : Nat → List (Option Taker) → List Lexeme → Option (Taker × Rest)
  | 0, _, _ => none
  | fuel + 1, parts, ts =>
      match ts with
      | ⟨.mark "]", _⟩ :: ts => some (.items parts none, ts)
      | ⟨.mark ",", _⟩ :: ts => takerItems fuel (parts ++ [none]) ts
      | ⟨.mark "...", _⟩ :: ts => do
          let (t, ts) ← taker fuel ts
          some (.items parts (some t), ← takeMark? "]" ts)
      | ts => do
          let (t, ts) ← takerOrDefault fuel ts
          match takeMark? "," ts with
          | some ts => takerItems fuel (parts ++ [some t]) ts
          | none => do
              some (.items (parts ++ [some t]) none, ← takeMark? "]" ts)

/-- An expression without operators, signs and suffixes. -/
def primary : Nat → List Lexeme → Option (Expr × Rest)
  | 0, _ => none
  | fuel + 1, ts =>
      match ts with
      | ⟨.number n, _⟩ :: ts => some (.literal (.number n), ts)
      | ⟨.big n, _⟩ :: ts => some (.literal (.big n), ts)
      | ⟨.text units, _⟩ :: ts => some (.literal (.text units), ts)
      | ⟨.opening units true, _⟩ :: ts => some (.literal (.text units), ts)
      | ⟨.opening units false, _⟩ :: ts => do
          let (rest, ts) ← joinedRest fuel ts
          some (.joined units rest, ts)
      | ⟨.mark "(", _⟩ :: ts => do
          let (a, ts) ← expression fuel ts
          some (a, ← takeMark? ")" ts)
      | ⟨.mark "[", _⟩ :: ts => do
          let (as, ts) ← items fuel "]" ts
          some (.list as, ts)
      | ⟨.mark "\x7b", _⟩ :: ts => do
          let (ms, ts) ← members fuel ts
          if soundMembers ms then some (.object ms, ts) else none
      | ⟨.word "function" false, _⟩ :: ts =>
          match takeName? ts with
          | some (name, ts) => do
              method fuel (Text.units name) (← takeMark? "(" ts)
          | none => do method fuel [] (← takeMark? "(" ts)
      | ⟨.word "new" false, _⟩ :: ts => do
          let (f, ts) ← primary fuel ts
          let (f, ts) ← suffixes fuel false false f ts
          match takeMark? "(" ts with
          | some ts => do
              let (args, ts) ← items fuel ")" ts
              some (.construct f args, ts)
          | none => some (.construct f [], ts)
      | ⟨.word w e, _⟩ :: ts => do some (← nameExpr? w e, ts)
      | _ => none

/-- Values in a text between backquotes, each with the text after it. -/
def joinedRest : Nat → List Lexeme → Option ((List (Expr × List Nat)) × Rest)
  | 0, _ => none
  | fuel + 1, ts => do
      let (a, ts) ← expression fuel ts
      match ts with
      | ⟨.ongoing units true, _⟩ :: ts => some ([(a, units)], ts)
      | ⟨.ongoing units false, _⟩ :: ts => do
          let (more, ts) ← joinedRest fuel ts
          some ((a, units) :: more, ts)
      | _ => none

/-- The body of a function after its opening brace. -/
def functionBody : Nat → List Parameter → List Lexeme → Option ((List Stmt) × Rest)
  | 0, _, _ => none
  | fuel + 1, ps, ts => do
      let (body, ts) ← statements fuel ts
      let names := body.flatMap Stmt.lexicalNames
      if decide names.Nodup
          && names.all (fun n => !(parameterNames ps).contains n) then
        some (body, ts)
      else none

/-- Statements up to the end of a group. -/
def statements : Nat → List Lexeme → Option ((List Stmt) × Rest)
  | 0, _ => none
  | fuel + 1, ts =>
      match takeMark? "\x7d" ts with
      | some ts => some ([], ts)
      | none => do
          let (first, ts) ← statement fuel ts
          let (others, ts) ← statements fuel ts
          some (first ++ others, ts)

/-- The statements of a group after its opening brace. -/
def block : Nat → List Lexeme → Option ((List Stmt) × Rest)
  | 0, _ => none
  | fuel + 1, ts => do
      let (body, ts) ← statements fuel ts
      if Stmt.soundNames [] body then some (body, ts) else none

/-- One declaration or more after the word that declares, without an end. -/
def declarations : Nat → Binding → List Lexeme → Option ((List Stmt) × Rest)
  | 0, _, _ => none
  | fuel + 1, how, ts => do
      let (t, ts) ← taker fuel ts
      let simple :=
        match t with
        | .name _ => true
        | _ => false
      if how != .variable && t.names.contains "let" then none
      else do
        let (value, ts) ←
          match takeMark? "=" ts with
          | some ts => do
              let (a, ts) ← assignment fuel ts
              let a :=
                match t with
                | .name w => namedFunction (Text.units w) a
                | _ => a
              some (some a, ts)
          | none => if how = .constant || !simple then none else some (none, ts)
        match takeMark? "," ts with
        | some ts => do
            let (others, ts) ← declarations fuel how ts
            some (.declare how t value :: others, ts)
        | none => some ([.declare how t value], ts)

/-- A condition between parentheses. -/
def condition : Nat → List Lexeme → Option (Expr × Rest)
  | 0, _ => none
  | fuel + 1, ts => do
      let (c, ts) ← expression fuel (← takeMark? "(" ts)
      some (c, ← takeMark? ")" ts)

/-- A statement that stands for itself after a condition or a label; a
    declaration may not. -/
def single : Nat → List Lexeme → Option (Stmt × Rest)
  | 0, _ => none
  | fuel + 1, ts => do
      let (body, ts) ← statement fuel ts
      match body with
      | [.declare .lexical _ _] | [.declare .constant _ _] => none
      | [s] => some (s, ts)
      | body => some (.block body, ts)

/-- A loop after its first word and an opening parenthesis. -/
def forLoop : Nat → List Lexeme → Option (Stmt × Rest)
  | 0, _ => none
  | fuel + 1, ts =>
      match forEach fuel ts with
      | some found => some found
      | none => do
          let (start, ts) ←
            match takeMark? ";" ts, takeBinding? ts with
            | some ts, _ => some ([], ts)
            | none, some (how, ts) => do
                let (ds, ts) ← declarations fuel how ts
                some (ds, ← takeMark? ";" ts)
            | none, none => do
                let (a, ts) ← expression fuel ts
                some ([.eval a], ← takeMark? ";" ts)
          let (c, ts) ←
            match takeMark? ";" ts with
            | some ts => some (.literal (.bool true), ts)
            | none => do
                let (c, ts) ← expression fuel ts
                some (c, ← takeMark? ";" ts)
          let (step, ts) ←
            match takeMark? ")" ts with
            | some ts => some (.literal .undefined, ts)
            | none => do
                let (a, ts) ← expression fuel ts
                some (a, ← takeMark? ")" ts)
          let (body, ts) ← single fuel ts
          some (.loop start c step body, ts)

/-- A loop over items or names after an opening parenthesis. -/
def forEach : Nat → List Lexeme → Option (Stmt × Rest)
  | 0, _ => none
  | fuel + 1, ts => do
      let (how, ts) ← takeBinding? ts
      let (t, ts) ← taker fuel ts
      match ts with
      | ⟨.word "of" false, _⟩ :: ts => do
          let (a, ts) ← assignment fuel ts
          let (body, ts) ← single fuel (← takeMark? ")" ts)
          some (.each how t false a body, ts)
      | ⟨.word "in" false, _⟩ :: ts => do
          let (a, ts) ← expression fuel ts
          let (body, ts) ← single fuel (← takeMark? ")" ts)
          some (.each how t true a body, ts)
      | _ => none

/-- Cases up to the closing brace. -/
def cases : Nat → List Lexeme → Option ((List (Option Expr × List Stmt)) × Rest)
  | 0, _ => none
  | fuel + 1, ts =>
      match ts with
      | ⟨.mark "\x7d", _⟩ :: ts => some ([], ts)
      | ⟨.word "case" false, _⟩ :: ts => do
          let (a, ts) ← expression fuel ts
          let (body, ts) ← caseBody fuel (← takeMark? ":" ts)
          let (more, ts) ← cases fuel ts
          some ((some a, body) :: more, ts)
      | ⟨.word "default" false, _⟩ :: ts => do
          let (body, ts) ← caseBody fuel (← takeMark? ":" ts)
          let (more, ts) ← cases fuel ts
          if more.any (fun c => c.1.isNone) then none
          else some ((none, body) :: more, ts)
      | _ => none

/-- The statements of a case. -/
def caseBody : Nat → List Lexeme → Option ((List Stmt) × Rest)
  | 0, _ => none
  | fuel + 1, ts =>
      match ts with
      | ⟨.mark "\x7d", _⟩ :: _ | ⟨.word "case" false, _⟩ :: _
      | ⟨.word "default" false, _⟩ :: _ => some ([], ts)
      | ts => do
          let (first, ts) ← statement fuel ts
          let (others, ts) ← caseBody fuel ts
          some (first ++ others, ts)

/-- Statements with a handler or an end, after the first word. -/
def attempt : Nat → List Lexeme → Option (Stmt × Rest)
  | 0, _ => none
  | fuel + 1, ts => do
      let (body, ts) ← block fuel (← takeMark? "\x7b" ts)
      let (t, handler, ts) ←
        match takeWord? "catch" ts with
        | some ts => do
            let (t, ts) ←
              match takeMark? "(" ts with
              | some ts => do
                  let (t, ts) ← taker fuel ts
                  some (some t, ← takeMark? ")" ts)
              | none => some (none, ts)
            let (h, ts) ← block fuel (← takeMark? "\x7b" ts)
            some (t, some h, ts)
        | none => some (none, none, ts)
      match takeWord? "finally" ts with
      | some ts => do
          let (finish, ts) ← block fuel (← takeMark? "\x7b" ts)
          some (.attempt body t handler finish, ts)
      | none => if handler.isNone then none else some (.attempt body t handler [], ts)

/-- A statement; a declaration counts as one for each name. -/
def statement : Nat → List Lexeme → Option ((List Stmt) × Rest)
  | 0, _ => none
  | fuel + 1, ts =>
      match ts with
      | ⟨.mark ";", _⟩ :: ts => some ([], ts)
      | ⟨.mark "\x7b", _⟩ :: ts => do
          let (body, ts) ← block fuel ts
          some ([.block body], ts)
      | ⟨.word "return" false, _⟩ :: ts =>
          match endStatement ts with
          | some ts => some ([.ret (.literal .undefined)], ts)
          | none => do
              let (a, ts) ← expression fuel ts
              some ([.ret a], ← endStatement ts)
      | ⟨.word "throw" false, _⟩ :: t :: ts =>
          if t.afterBreak then none
          else do
            let (a, ts) ← expression fuel (t :: ts)
            some ([.throw a], ← endStatement ts)
      | ⟨.word "while" false, _⟩ :: ts => do
          let (c, ts) ← condition fuel ts
          let (body, ts) ← single fuel ts
          some ([.repeat c body false], ts)
      | ⟨.word "do" false, _⟩ :: ts => do
          let (body, ts) ← single fuel ts
          let (c, ts) ← condition fuel (← takeWord? "while" ts)
          some ([.repeat c body true], (takeMark? ";" ts).getD ts)
      | ⟨.word "for" false, _⟩ :: ts => do
          let (s, ts) ← forLoop fuel (← takeMark? "(" ts)
          some ([s], ts)
      | ⟨.word "if" false, _⟩ :: ts => do
          let (c, ts) ← condition fuel ts
          let (yes, ts) ← single fuel ts
          match takeWord? "else" ts with
          | some ts => do
              let (no, ts) ← single fuel ts
              some ([.choose c yes no], ts)
          | none => some ([.choose c yes (.block [])], ts)
      | ⟨.word "switch" false, _⟩ :: ts => do
          let (a, ts) ← condition fuel ts
          let (cs, ts) ← cases fuel (← takeMark? "\x7b" ts)
          if Stmt.soundNames [] (cs.flatMap (fun c => c.2)) then
            some ([.select a cs], ts)
          else none
      | ⟨.word "try" false, _⟩ :: ts => do
          let (s, ts) ← attempt fuel ts
          some ([s], ts)
      | ⟨.word "break" false, _⟩ :: ts => do
          let (label, ts) := labelAhead ts
          some ([.leave label], ← endStatement ts)
      | ⟨.word "continue" false, _⟩ :: ts => do
          let (label, ts) := labelAhead ts
          some ([.next label], ← endStatement ts)
      | ⟨.word "debugger" false, _⟩ :: ts => do some ([], ← endStatement ts)
      | ⟨.word "function" false, _⟩ :: ts => do
          let (name, ts) ← takeName? ts
          let (f, ts) ← method fuel (Text.units name) (← takeMark? "(" ts)
          some ([.define name f], ts)
      | ⟨.word w false, b⟩ :: ⟨.mark ":", c⟩ :: ts =>
          if reserved.contains w then none
          else do
            let _ := (b, c)
            let (s, ts) ← single fuel ts
            some ([.labelled w s], ts)
      | ts =>
          match takeBinding? ts with
          | some (how, ts) => do
              let (ds, ts) ← declarations fuel how ts
              some (ds, ← endStatement ts)
          | none => do
              let (a, ts) ← expression fuel ts
              some ([.eval a], ← endStatement ts)

end

namespace Stmt

/-- All statements up to the end of the script. -/
def program : Nat → List Lexeme → Option (List Stmt)
  | _, [] | _, ⟨.mark "\x7d", _⟩ :: _ => some []
  | 0, _ :: _ => none
  | fuel + 1, ts => do
      let (first, rest) ← statement (16 * ts.length + 32) ts
      let others ← program fuel rest
      some (first ++ others)

/-- The statements of a script; nothing if the text is no script. -/
def ofText? (s : String) : Option (List Stmt) :=
  let ts := Lexeme.ofText s
  program ts.length ts

end Stmt
end NodeFlow.Script
