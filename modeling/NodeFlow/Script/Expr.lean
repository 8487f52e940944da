import NodeFlow.Script.Value

/-! # Expressions and statements

    A script is a list of statements.  Statements declare names, give them
    values, choose, repeat, return and throw; expressions have values. -/

namespace NodeFlow.Script

/-- An operator in front of an expression. -/
inductive UnaryOperator where
  /-- The number with the other sign. -/
  | minus
  /-- The number. -/
  | plus
  /-- Whether the value counts as false. -/
  | not
  /-- The number with the other bits. -/
  | flip
  /-- The name of the kind of the value. -/
  | kind
  /-- No value. -/
  | nothing
  deriving DecidableEq, Repr

/-- An operator between two expressions that are both worked out. -/
inductive Operator where
  /-- The sum, or texts joined. -/
  | plus
  /-- The difference. -/
  | minus
  /-- The product. -/
  | times
  /-- The quotient. -/
  | over
  /-- The remainder. -/
  | rest
  /-- The power. -/
  | power
  /-- Whether the values are the same. -/
  | same (same : Bool)
  /-- Whether the values are alike after conversion. -/
  | alike (alike : Bool)
  /-- Whether the first one is less, or equal too. -/
  | less (orEqual : Bool)
  /-- Whether the first one is greater, or equal too. -/
  | greater (orEqual : Bool)
  /-- Whether an object has a property. -/
  | member
  /-- Whether a function has made an object. -/
  | madeBy
  /-- The bits that both have. -/
  | both
  /-- The bits that one of the two has. -/
  | either
  /-- The bits that only one of the two has. -/
  | only
  /-- The bits moved to the left. -/
  | left
  /-- The bits moved to the right. -/
  | right
  /-- The bits moved to the right, as a natural number. -/
  | down
  deriving DecidableEq, Repr

/-- An operator whose second expression is worked out only if the first one
    does not decide. -/
inductive Decision where
  /-- The first value unless it is missing. -/
  | orElse
  /-- The first value if it counts as true. -/
  | or
  /-- The first value if it counts as false. -/
  | and
  deriving DecidableEq, Repr

/-- How a name is declared. -/
inductive Binding where
  /-- For the statements around it, to be changed. -/
  | lexical
  /-- For the statements around it, to stay. -/
  | constant
  /-- For the whole function. -/
  | variable
  deriving DecidableEq, Repr

mutual

/-- An expression. -/
inductive Expr where
  /-- A value. -/
  | literal (v : Value)
  /-- A name. -/
  | name (s : String)
  /-- What the function belongs to. -/
  | itself
  /-- A list. -/
  | list (items : List Expr)
  /-- The items of another list, in their place in a list. -/
  | spread (items : Expr)
  /-- An object. -/
  | object (members : List Member)
  /-- Texts with values between them. -/
  | joined (first : List Nat) (rest : List (Expr × List Nat))
  /-- A property. -/
  | property (target : Expr) (key : List Nat)
  /-- A property whose name is computed. -/
  | index (target : Expr) (key : Expr)
  /-- A call. -/
  | call (f : Expr) (args : List Expr)
  /-- A value that must not be missing, or else the whole chain is not worked
      out. -/
  | present (a : Expr)
  /-- A chain, whose value is undefined when it is not worked out. -/
  | chain (a : Expr)
  /-- A construction. -/
  | construct (f : Expr) (args : List Expr)
  /-- An operator in front of an expression. -/
  | unary (op : UnaryOperator) (a : Expr)
  /-- Two expressions with an operator. -/
  | binary (op : Operator) (a b : Expr)
  /-- Two expressions of which one decides. -/
  | decide (d : Decision) (a b : Expr)
  /-- A choice between two expressions. -/
  | choice (condition yes no : Expr)
  /-- The second expression after the first. -/
  | sequence (a b : Expr)
  /-- Give a name a value, by an operator on the old one if there is one. -/
  | assign (name : String) (op : Option Operator) (a : Expr)
  /-- Give a name a value unless the old one decides. -/
  | assignUnless (name : String) (d : Decision) (a : Expr)
  /-- Add to the number under a name; the value is the old one if `after`. -/
  | count (name : String) (down after : Bool)
  /-- A function. -/
  | function (name : List Nat) (parameters : List Parameter) (arrow : Bool)
      (body : List Stmt)

/-- A member of an object. -/
inductive Member where
  /-- A value under a name. -/
  | named (key : List Nat) (value : Expr)
  /-- A value under a name that is computed. -/
  | computed (key value : Expr)
  /-- The parent of the object. -/
  | parent (value : Expr)
  /-- The members of another object. -/
  | spread (value : Expr)

/-- A parameter: what takes the argument, and what stands for a missing one.
    The last one may take all the arguments that are left. -/
inductive Parameter where
  /-- A parameter. -/
  | mk (taker : Taker) (rest : Bool)

/-- What takes a value. -/
inductive Taker where
  /-- A name. -/
  | name (s : String)
  /-- Names for the properties of the value; one may take what is left. -/
  | members (parts : List (Expr × Taker)) (rest : Option String)
  /-- Names for the items of the value; one may take what is left. -/
  | items (parts : List (Option Taker)) (rest : Option Taker)
  /-- What takes another value in place of a missing one. -/
  | withDefault (taker : Taker) (value : Expr)

/-- A statement. -/
inductive Stmt where
  /-- A declaration. -/
  | declare (how : Binding) (taker : Taker) (value : Option Expr)
  /-- A function with a name. -/
  | define (name : String) (f : Expr)
  /-- Return a value. -/
  | ret (value : Expr)
  /-- Throw a value. -/
  | throw (value : Expr)
  /-- Repeat a statement as long as a condition holds; once without looking
      at it if `atLeastOnce`. -/
  | repeat (condition : Expr) (body : Stmt) (atLeastOnce : Bool)
  /-- Repeat a statement with a beginning and steps. -/
  | loop (start : List Stmt) (condition step : Expr) (body : Stmt)
  /-- Repeat a statement for the items of a list, or the names of
      members. -/
  | each (how : Binding) (taker : Taker) (names : Bool) (items : Expr)
      (body : Stmt)
  /-- Choose between statements. -/
  | choose (condition : Expr) (yes no : Stmt)
  /-- Choose among cases. -/
  | select (value : Expr) (cases : List (Option Expr × List Stmt))
  /-- Statements in a group. -/
  | block (body : List Stmt)
  /-- Statements, and others for what they throw and for the end. -/
  | attempt (body : List Stmt) (taker : Option Taker)
      (handler : Option (List Stmt)) (finish : List Stmt)
  /-- Leave a loop. -/
  | leave (label : Option String)
  /-- Go on with the next round of a loop. -/
  | next (label : Option String)
  /-- A statement with a name. -/
  | labelled (label : String) (body : Stmt)
  /-- An expression for itself. -/
  | eval (value : Expr)

end

instance : Inhabited Expr := ⟨.itself⟩

instance : Inhabited Stmt := ⟨.block []⟩

end NodeFlow.Script
