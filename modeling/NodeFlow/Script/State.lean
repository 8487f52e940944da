import NodeFlow.Script.Expr
import NodeFlow.Script.Library

/-! # What a running script keeps

    Names stand for cells, which are filled when a declaration is reached and
    may be filled anew.  A function keeps the names around the place where it
    was made. -/

namespace NodeFlow.Script

/-- Why evaluation stops before its end. -/
inductive Stop where
  /-- A value is thrown. -/
  | thrown (v : Value)
  /-- A limit is reached; a script cannot go on after that. -/
  | limit (message : String)
  /-- The script goes on for longer than anyone waits. -/
  | endless
  deriving Repr

/-- The names in scope with the numbers of their cells, the innermost
    first. -/
abbrev Scope : Type := List (String × Nat)

/-- Where an expression is worked out. -/
structure Place where
  /-- The names that are known there. -/
  scope : Scope
  /-- What the function belongs to. -/
  itself : Value

/-- A function of the script with the place where it was made. -/
structure Closure where
  /-- The name by which it knows itself. -/
  name : String
  /-- Its parameters. -/
  parameters : List Parameter
  /-- Whether it was written with an arrow. -/
  arrow : Bool
  /-- What it does. -/
  body : List Stmt
  /-- Where it was made. -/
  place : Place

/-- What a name stands for. -/
structure Cell where
  /-- The value, once the declaration has been reached. -/
  value : Option Value
  /-- Whether the value may not change. -/
  constant : Bool
  deriving Inhabited

/-- What a running script keeps. -/
structure State where
  /-- What the names stand for. -/
  cells : Array Cell
  /-- The functions made so far. -/
  functions : Array Closure
  /-- Names that were given values without a declaration. -/
  globals : List (String × Value)
  /-- The rounds of loops in the function that runs. -/
  rounds : Nat
  /-- The rounds of loops after which a function is stopped. -/
  limit : Nat
  /-- The number of functions that have been called and go on. -/
  depth : Nat

/-- Something that a running script does. -/
abbrev Act : Type → Type := EStateM Stop State

namespace State

/-- The state at the beginning. -/
def initial (limit : Nat) : State := ⟨#[], #[], [], 0, limit, 0⟩

end State

namespace Act

/-- Throw an error of a name with a message. -/
def fault {α : Type} (name message : String) : Act α :=
  throw (.thrown (.fault name (some (Text.units message))))

/-- Throw an error for a value of the wrong kind. -/
def typeFault {α : Type} (message : String) : Act α :=
  fault "TypeError" message

/-- A new cell. -/
def newCell (value : Option Value) (constant : Bool) : Act Nat :=
  modifyGet (fun s =>
    (s.cells.size, { s with cells := s.cells.push ⟨value, constant⟩ }))

/-- Names with new cells. -/
def newCells (names : List String) (value : Option Value) (constant : Bool) :
    Act Scope :=
  names.mapM (fun n => do return (n, ← newCell value constant))

/-- Fill a cell. -/
def fill (cell : Nat) (v : Value) : Act Unit :=
  modify (fun s =>
    { s with cells := s.cells.modify cell (fun c => { c with value := some v }) })

/-- The value of a name, if the name is known. -/
def find? (scope : Scope) (name : String) : Act (Option Value) := do
  let s ← get
  match scope.lookup name with
  | some cell =>
      match (s.cells.getD cell default).value with
      | some v => return some v
      | none => fault "ReferenceError" "access of uninitialized binding"
  | none => return s.globals.lookup name <|> Library.find? name

/-- The value of a name. -/
def look (scope : Scope) (name : String) : Act Value := do
  match ← find? scope name with
  | some v => return v
  | none => fault "ReferenceError" (name ++ " is not defined")

/-- Give a name another value. -/
def store (scope : Scope) (name : String) (v : Value) : Act Unit := do
  let s ← get
  match scope.lookup name with
  | some cell =>
      let c := s.cells.getD cell default
      if c.value.isNone then
        fault "ReferenceError" "access of uninitialized binding"
      else if c.constant then
        typeFault ("cannot mutate an immutable binding '" ++ name ++ "'")
      else fill cell v
  | none =>
      if name = "undefined" || name = "NaN" || name = "Infinity" then return ()
      else set { s with globals := (name, v) :: s.globals }

/-- A new function. -/
def newFunction (name : List Nat) (arity : Nat) (closure : Closure) :
    Act Value :=
  modifyGet (fun s =>
    (.function s.functions.size name arity,
      { s with functions := s.functions.push closure }))

/-- More rounds of loops than any time that is allowed. -/
def longest : Nat := 300000

/-- What is said of a loop that goes on for too long. -/
def tooManyRounds (limit : Nat) : String :=
  "RuntimeLimit: Maximum loop iteration limit " ++ toString limit
    ++ " exceeded"

/-- Begin a round of a loop. -/
def round : Act Unit := do
  let s ← get
  if s.limit < s.rounds then throw (.limit (tooManyRounds s.limit))
  else if longest < s.rounds then throw .endless
  else set { s with rounds := s.rounds + 1 }

/-- The number of functions that may have been called and go on. -/
def deepest : Nat := 512

/-- Do something as a function of its own. -/
def inside {α : Type} (act : Act α) : Act α := do
  let s ← get
  if deepest ≤ s.depth then
    throw (.limit "RuntimeLimit: exceeded maximum number of recursive calls")
  else
    set { s with depth := s.depth + 1, rounds := 0 }
    let back : Act Unit :=
      modify (fun t => { t with depth := s.depth, rounds := s.rounds })
    let v ← tryCatch act (fun e => do back; throw e)
    back
    return v

end Act
end NodeFlow.Script
