import NodeFlow.Script.State

/-! # Conversions and operators

    Operators work on numbers and texts.  For other values they use what a
    value says of itself, by calling its functions; how a function is called
    is a parameter here. -/

namespace NodeFlow.Script

/-- How a function is called: with what it belongs to, and its arguments. -/
abbrev Caller : Type := Value → Value → List Value → Act Value

namespace Value

/-- What is said of a value without properties. -/
def noObject : String := "cannot convert 'null' or 'undefined' to object"

/-- A property of a value. -/
def property (v : Value) (key : List Nat) : Act Value :=
  match v.property? key with
  | some w => return w
  | none => Act.typeFault noObject

/-- The name of the kind of a value. -/
def kind : Value → String
  | .undefined => "undefined"
  | .bool _ => "boolean"
  | .number _ => "number"
  | .big _ => "bigint"
  | .text _ => "string"
  | v => if v.isCallable then "function" else "object"

/-- How a function is shown. -/
def shownFunction (name : List Nat) : List Nat :=
  Text.units "function " ++ name ++ Text.units "() \x7b [native code] \x7d"

/-- The name between brackets by which a value is shown when it has no text
    of its own. -/
def className : Value → String
  | .undefined => "Undefined"
  | .null => "Null"
  | .bool _ => "Boolean"
  | .number _ => "Number"
  | .big _ => "BigInt"
  | .text _ => "String"
  | .list _ => "Array"
  | .object _ _ => "Object"
  | .fault _ _ => "Error"
  | .arguments _ => "Arguments"
  | .function _ _ _ => "Function"
  | .builtin path =>
      if (Library.arity? path).isSome then "Function"
      else if path = "Math" || path = "JSON" || path = "Reflect" then path
      else if path = "Array.prototype" then "Array"
      else "Object"

/-- The text of a value without parts. -/
def primitiveText : Value → List Nat
  | .undefined => Text.units "undefined"
  | .null => Text.units "null"
  | .bool b => Text.units (toString b)
  | .number n => Text.units n.text
  | .big n => Text.units (toString n)
  | .text units => units
  | _ => []

/-- The functions by which a value says what it is, in the order in which
    they are asked. -/
def sayers (asText : Bool) : List String :=
  if asText then ["toString", "valueOf"] else ["valueOf", "toString"]

/-- The first value without parts that these functions of a value give. -/
def ask (call : Caller) (v : Value) : List String → Act Value
  | [] => Act.typeFault "cannot convert object to primitive value"
  | name :: rest => do
      let f ← v.property (Text.units name)
      if f.isCallable then
        let w ← call f v []
        if w.isPrimitive then return w else ask call v rest
      else ask call v rest

/-- The value without parts that a value stands for. -/
def primitive (call : Caller) (asText : Bool) (v : Value) : Act Value :=
  if v.isPrimitive then return v else ask call v (sayers asText)

/-- The text of a value. -/
def toText (call : Caller) (v : Value) : Act (List Nat) := do
  return (← primitive call true v).primitiveText

/-- The number that a value without parts stands for. -/
def primitiveNumber : Value → Act Num
  | .undefined => return .nan
  | .null => return .zero
  | .bool b => return if b then .one else .zero
  | .number n => return n
  | .big _ => Act.typeFault "argument must not be a bigint"
  | .text units => return Num.ofText (charsOf units)
  | _ => return .nan

/-- The number that a value stands for. -/
def toNumber (call : Caller) (v : Value) : Act Num := do
  primitiveNumber (← primitive call false v)

/-- A number for an operator: a whole number of any size stays one. -/
def toNumeric (call : Caller) (v : Value) : Act (Int ⊕ Num) := do
  match ← primitive call false v with
  | .big n => return .inl n
  | w => return .inr (← primitiveNumber w)

/-- What is said of operators on different kinds of numbers. -/
def mixed : String :=
  "cannot mix BigInt and other types, use explicit conversions"

/-- The greatest exponent of a power of whole numbers that is worked out. -/
def greatestExponent : Nat := 100000

/-- An operator on whole numbers of any size. -/
def bigOperator (op : Operator) (a b : Int) : Act Value :=
  match op with
  | .plus => return .big (a + b)
  | .minus => return .big (a - b)
  | .times => return .big (a * b)
  | .over =>
      if b = 0 then Act.fault "RangeError" "BigInt division by zero"
      else return .big (a.tdiv b)
  | .rest =>
      if b = 0 then Act.fault "RangeError" "BigInt division by zero"
      else return .big (a.tmod b)
  | .power =>
      if b < 0 then Act.fault "RangeError" "BigInt negative exponent"
      else return .big (a ^ (min b.toNat greatestExponent))
  | .left | .right =>
      let places := if op = .left then b else -b
      return .big
        (if 0 ≤ places then a * 2 ^ (min places.toNat greatestExponent)
          else a.fdiv (2 ^ (min (-places).toNat greatestExponent)))
  | _ => Act.typeFault mixed

/-- An operator on numbers. -/
def numberOperator (op : Operator) (a b : Num) : Value :=
  match op with
  | .plus => .number (a.add b)
  | .minus => .number (a.sub b)
  | .times => .number (a.mul b)
  | .over => .number (a.div b)
  | .rest => .number (a.rem b)
  | .power => .number (a.pow b)
  | .both => .number (Num.onBits Nat.land a b)
  | .either => .number (Num.onBits Nat.lor a b)
  | .only => .number (Num.onBits Nat.xor a b)
  | .left => .number (Num.shiftLeft a b)
  | .right => .number (Num.shiftRight a b)
  | .down => .number (Num.shiftDown a b)
  | _ => .undefined

/-- An operator on values that are numbers for it. -/
def arithmetic (call : Caller) (op : Operator) (v w : Value) : Act Value := do
  let a ← toNumeric call v
  let b ← toNumeric call w
  match a, b with
  | .inl a, .inl b => bigOperator op a b
  | .inr a, .inr b => return numberOperator op a b
  | _, _ => Act.typeFault mixed

/-- The sum of two values, or their texts joined if one of them is a text. -/
def plus (call : Caller) (v w : Value) : Act Value := do
  let a ← primitive call false v
  let b ← primitive call false w
  match a, b with
  | .text s, b => return .text (s ++ b.primitiveText)
  | a, .text t => return .text (a.primitiveText ++ t)
  | a, b => arithmetic call .plus a b

/-- Whether a list of units comes before another one. -/
def unitsLess : List Nat → List Nat → Bool
  | _, [] => false
  | [], _ :: _ => true
  | a :: s, b :: t => a < b || (a == b && unitsLess s t)

/-- Whether one value is less than another; nothing if they cannot be
    compared. -/
def less? (call : Caller) (v w : Value) : Act (Option Bool) := do
  let a ← primitive call false v
  let b ← primitive call false w
  match a, b with
  | .text s, .text t => return some (unitsLess s t)
  | a, b =>
      let number : Value → Act Num := fun v =>
        match v with
        | .big n => return Num.ofInt n
        | v => primitiveNumber v
      return (← number a).less? (← number b)

/-- Whether two values are the same.  Two values with parts are not, as they
    have been made one after the other. -/
def same : Value → Value → Bool
  | .undefined, .undefined | .null, .null => true
  | .bool a, .bool b => a == b
  | .number a, .number b => a.same b
  | .big a, .big b => a == b
  | .text a, .text b => a == b
  | .function a _ _, .function b _ _ => a == b
  | .builtin a, .builtin b => a == b
  | _, _ => false

/-- Whether two values are alike after conversion. -/
def alike (call : Caller) (v w : Value) : Act Bool := do
  if v.isMissing || w.isMissing then return v.isMissing && w.isMissing
  else
    match v.isPrimitive, w.isPrimitive with
    | false, false => return same v w
    | _, _ =>
        let a ← primitive call false v
        let b ← primitive call false w
        match a, b with
        | .text s, .text t => return s == t
        | .big m, .big n => return m == n
        | a, b =>
            let number : Value → Act Num := fun v =>
              match v with
              | .big n => return Num.ofInt n
              | v => primitiveNumber v
            return (← number a).same (← number b)

/-- Whether a value has a parent among its parents. -/
def descends (parent : Value) : Value → Bool
  | .object p _ => same p parent || descends parent p
  | v => same v.parent parent || same v.parent.parent parent

/-- Whether a function has made a value. -/
def madeBy (v f : Value) : Act Bool :=
  match f with
  | .builtin path =>
      if f.isCallable then
        return !v.isPrimitive
          && descends (.builtin (Library.under path "prototype")) v
      else Act.typeFault "right-hand side of 'instanceof' is not callable"
  | .function _ _ _ => return false
  | _ =>
      Act.typeFault
        ("right-hand side of 'instanceof' should be an object, got `"
          ++ f.kind ++ "`")

/-- An operator between two values. -/
def operate (call : Caller) (op : Operator) (v w : Value) : Act Value :=
  match op with
  | .plus => plus call v w
  | .same wanted => return .bool (same v w == wanted)
  | .alike wanted => do return .bool ((← alike call v w) == wanted)
  | .less false => do return .bool ((← less? call v w) == some true)
  | .less true => do return .bool ((← less? call w v) == some false)
  | .greater false => do return .bool ((← less? call w v) == some true)
  | .greater true => do return .bool ((← less? call v w) == some false)
  | .member =>
      if w.isPrimitive then
        Act.typeFault
          ("right-hand side of 'in' should be an object, got `"
            ++ w.kind ++ "`")
      else do
        return .bool (chainProperty? (← toText call v) w w).isSome
  | .madeBy => do return .bool (← madeBy v w)
  | op => arithmetic call op v w

/-- An operator in front of a value. -/
def operateOn (call : Caller) (op : UnaryOperator) (v : Value) : Act Value :=
  match op with
  | .minus => do
      match ← toNumeric call v with
      | .inl n => return .big (-n)
      | .inr n => return .number n.neg
  | .plus => do return .number (← toNumber call v)
  | .not => return .bool (!v.truthy)
  | .flip => do
      match ← toNumeric call v with
      | .inl n => return .big (-n - 1)
      | .inr n => return .number (Num.ofInt (-n.bits - 1))
  | .kind => return ofString v.kind
  | .nothing => return .undefined

/-- The number after or before the one that a value stands for, and that
    one. -/
def counted (call : Caller) (down : Bool) (v : Value) :
    Act (Value × Value) := do
  match ← toNumeric call v with
  | .inl n => return (.big n, .big (if down then n - 1 else n + 1))
  | .inr n =>
      return (.number n, .number (if down then n.sub .one else n.add .one))

/-- The items that can be taken from a value one by one. -/
def itemsOf (v : Value) : Act (List Value) :=
  match v with
  | .list items | .arguments items => return items
  | .text units =>
      return (Text.glyphs units).map (fun g =>
        match g with
        | .char c => .text (Text.charUnits c)
        | .half u => .text [u])
  | .undefined | .null => Act.typeFault noObject
  | _ => Act.typeFault "object is not iterable"

end Value
end NodeFlow.Script
