import NodeFlow.Editor.Mode

/-! # The grammar of a command line

    A command has operands, which are told apart by their place, and
    parameters, which are named.  A parameter with a value takes it from the
    same argument or from the next one.  The grammar of a command also says
    what is made of its arguments. -/

namespace NodeFlow.CommandLine

/-- What values are accepted. -/
inductive ValueKind where
  /-- Any text. -/
  | text
  /-- A path, which is not empty. -/
  | path
  /-- The name of an editor mode. -/
  | mode
  deriving DecidableEq, Repr

/-- Whether a value is accepted. -/
def ValueKind.accepts : ValueKind → String → Bool
  | .text, _ => true
  | .path, s => !s.isEmpty
  | .mode, s => (Mode.ofText? s).isSome

/-- The value of a parameter. -/
structure ValueSpec where
  /-- What it is called in the help. -/
  name : String
  /-- What is accepted. -/
  kind : ValueKind := .text
  deriving DecidableEq, Repr

/-- A named parameter. -/
structure Parameter where
  /-- The name after two dashes. -/
  long : String
  /-- The letter after one dash. -/
  short : Option Char := none
  /-- The value, unless the parameter is a mere flag. -/
  value : Option ValueSpec := none
  /-- It may be given more than once. -/
  repeats : Bool := false
  /-- It must be given. -/
  required : Bool := false
  /-- The value that counts when it is not given. -/
  fallback : Option String := none
  /-- What it is for. -/
  about : String := ""
  deriving DecidableEq, Repr

/-- An operand. -/
structure Operand where
  /-- What it is called in the help. -/
  name : String
  /-- What is accepted. -/
  kind : ValueKind := .text
  /-- It must be given. -/
  required : Bool := true
  /-- What it is for. -/
  about : String := ""
  deriving DecidableEq, Repr

/-- The arguments that a command was given. -/
structure Given where
  /-- The parameters with their values, in order; a flag has an empty
      value. -/
  parameters : List (String × String) := []
  /-- The operands, in order. -/
  operands : List String := []
  deriving DecidableEq, Repr, Inhabited

namespace Given

/-- Whether a parameter is given. -/
def has (g : Given) (long : String) : Bool :=
  g.parameters.any (fun p => p.1 == long)

/-- The values of a parameter. -/
def values (g : Given) (long : String) : List String :=
  (g.parameters.filter (fun p => p.1 == long)).map (·.2)

/-- The first value of a parameter. -/
def value? (g : Given) (long : String) : Option String :=
  (g.values long).head?

end Given

/-- The grammar of a command that comes to an `α`. -/
structure Grammar (α : Type) where
  /-- The name. -/
  name : String
  /-- What it is for. -/
  about : String
  /-- The operands. -/
  operands : List Operand := []
  /-- The parameters. -/
  parameters : List Parameter := []
  /-- What is made of its arguments. -/
  make : Given → Option α

namespace Grammar

variable {α : Type}

/-- The parameter with a long name. -/
def long? (g : Grammar α) (name : String) : Option Parameter :=
  g.parameters.find? (fun p => p.long == name)

/-- The parameter with a letter. -/
def short? (g : Grammar α) (letter : Char) : Option Parameter :=
  g.parameters.find? (fun p => p.short == some letter)

/-- The kind of the operand in a place, if there is one. -/
def operandKind? (g : Grammar α) (place : Nat) : Option ValueKind :=
  (g.operands[place]?).map Operand.kind

/-- Whether everything is given that must be. -/
def isSatisfied (g : Grammar α) (given : Given) : Bool :=
  (g.operands.filter Operand.required).length ≤ given.operands.length
    && g.parameters.all (fun p => !p.required || given.has p.long)

end Grammar
end NodeFlow.CommandLine
