import NodeFlow.Json.Printer
import NodeFlow.Script.Num
import NodeFlow.Text.Units

/-! # Values of scripts

    A script works on doubles, whole numbers of any size, texts in units of
    16 bits, lists, objects, errors and functions.  Values do not change.  An
    object has a parent, which has the properties that it lacks itself; the
    parents at the end of each chain are always there, and are known by their
    names like all else that a script finds around it. -/

namespace NodeFlow.Script

/-- A value of a script. -/
inductive Value where
  /-- No value. -/
  | undefined
  /-- The empty value. -/
  | null
  /-- A truth value. -/
  | bool (b : Bool)
  /-- A number. -/
  | number (n : Num)
  /-- A whole number of any size. -/
  | big (n : Int)
  /-- A text, in units of 16 bits. -/
  | text (units : List Nat)
  /-- A list. -/
  | list (items : List Value)
  /-- An object with its parent. -/
  | object (parent : Value) (members : List (List Nat × Value))
  /-- An error with its name, and a message if it has one of its own. -/
  | fault (name : String) (message : Option (List Nat))
  /-- The arguments of a call. -/
  | arguments (items : List Value)
  /-- A function of the script, with the number of its parameters. -/
  | function (place : Nat) (name : List Nat) (arity : Nat)
  /-- What is always there under a name. -/
  | builtin (path : String)
  deriving Repr, Inhabited

namespace Value

/-- A text as a value. -/
def ofString (s : String) : Value := .text (Text.units s)

/-- The parent of every object that names no other. -/
def root : Value := .builtin "Object.prototype"

/-- An object without a particular parent. -/
def plain (members : List (List Nat × Value)) : Value := .object root members

/-- A count as a value. -/
def ofCount (n : Nat) : Value := .number (Num.ofNat n)

mutual

/-- A JSON value as a value of a script. -/
def ofJson : Json → Value
  | .null => .null
  | .bool b => .bool b
  | .number n => .number (Num.ofJson n)
  | .str s => ofString s
  | .arr items => .list (ofJsonItems items)
  | .obj members => plain (ofJsonMembers members)

/-- JSON values as values of a script. -/
def ofJsonItems : List Json → List Value
  | [] => []
  | v :: rest => ofJson v :: ofJsonItems rest

/-- Members of a JSON object as members of a script's. -/
def ofJsonMembers : List (String × Json) → List (List Nat × Value)
  | [] => []
  | (k, v) :: rest => (Text.units k, ofJson v) :: ofJsonMembers rest

end

/-- The characters of a text in units; half a character stands for itself by
    a character that occurs in no number and no name. -/
def charsOf (units : List Nat) : List Char :=
  (Text.glyphs units).map (fun g =>
    match g with
    | .char c => c
    | .half _ => Char.ofNat 0xFFFD)

/-- Whether a value counts as true. -/
def truthy : Value → Bool
  | .undefined | .null => false
  | .bool b => b
  | .number n => n.truthy
  | .big n => n != 0
  | .text units => !units.isEmpty
  | _ => true

/-- Whether a value has no value inside. -/
def isMissing : Value → Bool
  | .undefined | .null => true
  | _ => false

/-- Whether a value is no object. -/
def isPrimitive : Value → Bool
  | .undefined | .null | .bool _ | .number _ | .big _ | .text _ => true
  | _ => false

/-! ## Members -/

/-- Members as an object keeps them: the last of two with one name. -/
def lastMembers : List (List Nat × Value) → List (List Nat × Value)
  | [] => []
  | (k, v) :: rest =>
      if rest.any (fun m => m.1 == k) then lastMembers rest
      else (k, v) :: lastMembers rest

/-- The value of a member of an object. -/
def lookup (key : List Nat) : List (List Nat × Value) → Option Value
  | [] => none
  | (k, v) :: rest => if k = key then some v else lookup key rest

/-- The place that a text writes in decimal, without zeros in front. -/
def placeOf? (key : List Nat) : Option Nat :=
  let cs := key.map Char.ofNat
  let n := Numeral.digitsValue cs
  if !cs.isEmpty && cs.all Char.isDigit && Text.units (toString n) = key then
    some n
  else none

/-- The members that a list or a text shows: its items by their places. -/
def placed (items : List Value) : List (List Nat × Value) :=
  (List.range items.length).zip items |>.map
    (fun (i, v) => (Text.units (toString i), v))

/-- The members that can be listed. -/
def members : Value → List (List Nat × Value)
  | .object _ ms => ms
  | .list items | .arguments items => placed items
  | .text units => placed (units.map (fun u => .text [u]))
  | _ => []

end Value
end NodeFlow.Script
