import NodeFlow.Host.Error
import NodeFlow.Json.Shape
import NodeFlow.Registry
import NodeFlow.Text.Blank

/-! # Arguments

    Inputs are given as `name=value` and links as `from:slot:to:slot`.  A text
    is given as it is, or as the name of a file after an at sign. -/

namespace NodeFlow

namespace Argument

/-- Split at the first equals sign. -/
def splitEquals : List Char → Option (List Char × List Char)
  | [] => none
  | c :: rest =>
      if c = '=' then some ([], rest)
      else (splitEquals rest).map (fun (n, v) => (c :: n, v))

/-- The value of a text: JSON if it is JSON, the text itself otherwise. -/
def valueOf (raw : String) : Json := (Json.read raw).getD (.str raw)

/-- The name and the value of an input. -/
def inputOf? (arg : String) : Option (String × Json) :=
  (splitEquals arg.toList).map (fun (name, raw) =>
    (String.ofList (Text.trimChars name), valueOf (String.ofList raw)))

/-- The inputs of arguments; of two with one name the last counts. -/
def inputs (args : List String) : Except HostError (Table String Json) := do
  let pairs ← args.mapM (fun arg =>
    match inputOf? arg with
    | some pair => Except.ok pair
    | none => .error (.invalidArgument arg "expected name=value"))
  .ok (Table.ofList pairs)

/-- A link between records, as it is written in an argument. -/
structure LinkText where
  /-- The record that the value comes from. -/
  source : String
  /-- The place of the output. -/
  sourceSlot : Nat
  /-- The record that the value goes to. -/
  target : String
  /-- The place of the input. -/
  targetSlot : Nat
  deriving DecidableEq, Repr

/-- The link of an argument. -/
def link (arg : String) : Except HostError LinkText :=
  match arg.splitOn ":" with
  | [source, sourceSlot, target, targetSlot] =>
      match Registry.numberOf? sourceSlot, Registry.numberOf? targetSlot with
      | some i, some j => .ok ⟨source, i, target, j⟩
      | none, _ => .error (.invalidArgument arg "bad output slot")
      | _, none => .error (.invalidArgument arg "bad input slot")
  | _ => .error (.invalidArgument arg "expected FROM:SLOT:TO:SLOT")

/-- The text of an argument. -/
def text {m : Type → Type} [Monad m] [Files m] (arg : String) :
    m (Except HostError String) :=
  match arg.toList with
  | '@' :: name => do
      let path := String.ofList name
      match ← Files.read path with
      | .ok s => pure (.ok s)
      | .error fault => pure (.error (.cannotRead path fault))
  | _ => pure (.ok arg)

end Argument
end NodeFlow
