import NodeFlow.CommandLine.Grammar

/-! # Reading arguments

    Arguments are read from first to last, and reading stops at the first
    that is out of place or asks for help.  After a lone double dash every
    argument is an operand. -/

namespace NodeFlow.CommandLine

/-- Why reading stops before the last argument. -/
inductive Halt where
  /-- An argument is out of place or missing. -/
  | misuse
  /-- Help is asked for. -/
  | help
  /-- The version is asked for. -/
  | version
  deriving DecidableEq, Repr

/-- Whether an argument can be the value of the parameter before it. -/
def isValue (arg : String) : Bool := arg = "-" || !arg.startsWith "-"

/-- The name after two dashes and what follows an equals sign. -/
def splitLong (arg : List Char) : String × Option String :=
  let name := arg.takeWhile (fun c => c != '=')
  match arg.dropWhile (fun c => c != '=') with
  | _ :: value => (String.ofList name, some (String.ofList value))
  | [] => (String.ofList name, none)

/-- What follows a letter in its argument is its value, without an equals
    sign before it. -/
def attachedValue : List Char → Option String
  | [] => none
  | '=' :: value => some (String.ofList value)
  | value => some (String.ofList value)

namespace Given

variable {α : Type}

/-- Take in a parameter with its value. -/
def take (given : Given) (p : Parameter) (value : String) :
    Except Halt Given :=
  let accepted :=
    match p.value with
    | some spec => spec.kind.accepts value
    | none => true
  if accepted && (p.repeats || !given.has p.long) then
    .ok { given with parameters := given.parameters ++ [(p.long, value)] }
  else .error .misuse

/-- Take in an operand. -/
def takeOperand (g : Grammar α) (given : Given) (arg : String) :
    Except Halt Given :=
  match g.operandKind? given.operands.length with
  | some kind =>
      if kind.accepts arg then
        .ok { given with operands := given.operands ++ [arg] }
      else .error .misuse
  | none => .error .misuse

/-- What an argument with dashes turns out to be. -/
inductive Named where
  /-- A flag or a parameter with its value. -/
  | whole (p : Parameter) (value : String)
  /-- A parameter whose value is the next argument. -/
  | half (p : Parameter)

/-- What a parameter with a long name turns out to be. -/
def ofLong (g : Grammar α) (versioned : Bool) (arg : List Char) :
    Except Halt Named :=
  let (name, attached) := splitLong arg
  match g.long? name, attached with
  | some p, none =>
      .ok (if p.value.isSome then .half p else .whole p "")
  | some p, some value =>
      if p.value.isSome then .ok (.whole p value) else .error .misuse
  | none, none =>
      if name = "help" then .error .help
      else if name = "version" && versioned then .error .version
      else .error .misuse
  | none, some _ => .error .misuse

/-- What a parameter with a letter turns out to be. -/
def ofShort (g : Grammar α) (versioned : Bool) (letter : Char)
    (rest : List Char) : Except Halt Named :=
  match g.short? letter with
  | some p =>
      match p.value.isSome, attachedValue rest with
      | true, some value => .ok (.whole p value)
      | true, none => .ok (.half p)
      | false, none => .ok (.whole p "")
      | false, some _ => .error .misuse
  | none =>
      if letter = 'h' then .error .help
      else if letter = 'V' && versioned then .error .version
      else .error .misuse

/-- What an argument turns out to be; `none` when it is not named. -/
def ofArg (g : Grammar α) (versioned : Bool) (arg : String) :
    Option (Except Halt Named) :=
  match arg.toList with
  | '-' :: '-' :: rest => some (ofLong g versioned rest)
  | '-' :: letter :: rest => some (ofShort g versioned letter rest)
  | _ => none

/-- Operands up to the end. -/
def readOperands (g : Grammar α) (given : Given) (args : List String) :
    Except Halt Given :=
  args.foldlM (takeOperand g) given

/-- Read arguments up to one that `stops`; answers what is read and what is
    left. -/
def read (g : Grammar α) (versioned : Bool) (stops : String → Bool)
    (given : Given) : List String → Except Halt (Given × List String)
  | [] => .ok (given, [])
  | arg :: rest =>
      if stops arg then .ok (given, arg :: rest)
      else if arg = "--" then
        (readOperands g given rest).map (fun given => (given, []))
      else
        match ofArg g versioned arg, rest with
        | none, rest => do
            read g versioned stops (← takeOperand g given arg) rest
        | some (.error halt), _ => .error halt
        | some (.ok (.whole p value)), rest => do
            read g versioned stops (← given.take p value) rest
        | some (.ok (.half p)), value :: rest => do
            if isValue value then
              read g versioned stops (← given.take p value) rest
            else .error .misuse
        | some (.ok (.half _)), [] => .error .misuse

end Given
end NodeFlow.CommandLine
