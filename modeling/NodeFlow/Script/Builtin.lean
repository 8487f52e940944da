import NodeFlow.Script.Convert
import NodeFlow.Text.Upper

/-! # Calling what is always there

    Functions that are always there give values made from what they belong to
    and from their arguments. -/

namespace NodeFlow.Script

namespace Builtin

/-- An argument. -/
def argument (args : List Value) (n : Nat) : Value := args.getD n .undefined

/-- The texts of values joined, with another text between them; missing
    values have no text. -/
def joined (call : Caller) (between : List Nat) : List Value → Act (List Nat)
  | [] => return []
  | v :: rest => do
      let first ← if v.isMissing then pure [] else v.toText call
      let others ← joined call between rest
      return if rest.isEmpty then first else first ++ between ++ others

/-- The items of a value with a length. -/
def itemsOf : Value → List Value
  | .list items | .arguments items => items
  | .text units => units.map (fun u => .text [u])
  | .object _ members =>
      match Value.lookup (Text.units "length") members with
      | some (.number n) =>
          (List.range ((n.whole?.getD 0).toNat)).map (fun i =>
            (Value.lookup (Text.units (toString i)) members).getD .undefined)
      | _ => []
  | _ => []

/-- The text of an error: its name, and its message if it has one. -/
def faultText (call : Caller) (v : Value) : Act (List Nat) := do
  let name ← v.property (Text.units "name")
  let message ← v.property (Text.units "message")
  let name ←
    match name with
    | .undefined => pure (Text.units "Error")
    | n => n.toText call
  let message ←
    match message with
    | .undefined => pure []
    | m => m.toText call
  return if name.isEmpty then message
    else if message.isEmpty then name
    else name ++ Text.units ": " ++ message

/-- An error with the message in the first argument. -/
def newFault (call : Caller) (name : String) (args : List Value) :
    Act Value := do
  match argument args 0 with
  | .undefined => return .fault name none
  | v => return .fault name (some (← v.toText call))

/-- The place that an argument means among `size` places: negative ones count
    from the end. -/
def place (call : Caller) (size : Nat) (ifMissing : Nat) (v : Value) :
    Act Nat := do
  match v with
  | .undefined => return ifMissing
  | v =>
      match ← v.toNumber call with
      | .infinite negative => return if negative then 0 else size
      | .nan => return 0
      | .finite x =>
          let (a, b) := x.ratio
          let n := a / b
          return if x.negative then size - n else min n size

/-- The place where a list occurs in another one, from a place on. -/
def placeOf? (part : List Nat) : Nat → List Nat → Option Nat
  | n, [] => if part.isEmpty then some n else none
  | n, u :: rest =>
      if part.isPrefixOf (u :: rest) then some n
      else placeOf? part (n + 1) rest

/-- A number rounded to a whole one, by its sign, its whole part and whether
    something is left. -/
def rounded (f : Bool → Nat → Bool → Int) : Num → Num
  | .finite x =>
      let (a, b) := x.ratio
      let n := f x.negative (a / b) (a % b != 0)
      if n = 0 then .finite (Binary64.zero x.negative) else Num.ofInt n
  | n => n

/-- The functions of numbers under their last names. -/
def mathFunction? (name : String) : Option (Num → Num) :=
  match name with
  | "abs" =>
      some (fun n => if (n.less? .zero).getD false then n.neg else n)
  | "floor" =>
      some (rounded (fun s n more =>
        if s then (if more then -(n : Int) - 1 else -n) else n))
  | "ceil" =>
      some (rounded (fun s n more =>
        if s then -(n : Int) else if more then n + 1 else n))
  | "trunc" => some (rounded (fun s n _ => if s then -(n : Int) else n))
  | "round" =>
      some (fun n =>
        rounded (fun s n more =>
          if s then (if more then -(n : Int) - 1 else -n) else n)
          (n.add (Num.ofDecimal 5 (-1))))
  | "sign" =>
      some (fun n =>
        match n with
        | .infinite s => if s then Num.one.neg else .one
        | .finite x =>
            if x.isZero then .finite x
            else if x.negative then Num.one.neg
            else .one
        | .nan => .nan)
  | _ => none

/-- The greatest or the least of numbers. -/
def extreme (greatest : Bool) (numbers : List Num) : Num :=
  numbers.foldl
    (fun best n =>
      match (if greatest then best.less? n else n.less? best) with
      | none => .nan
      | some better => if better then n else best)
    (.infinite greatest)

/-- Whether a number is whole. -/
def isWhole : Value → Bool
  | .number n => n.whole?.isSome
  | _ => false

/-- The function of an object, under its last name. -/
def onObject (call : Caller) (name : String) (args : List Value) :
    Act Value := do
  let v := argument args 0
  match name with
  | "keys" =>
      if v.isMissing then Act.typeFault Value.noObject
      else return .list (v.members.map (fun m => .text m.1))
  | "values" =>
      if v.isMissing then Act.typeFault Value.noObject
      else return .list (v.members.map (fun m => m.2))
  | "entries" =>
      if v.isMissing then Act.typeFault Value.noObject
      else return .list (v.members.map (fun m => .list [.text m.1, m.2]))
  | "fromEntries" =>
      let pairs ← v.itemsOf
      let members ← pairs.mapM (fun p => do
        let key ← argument (itemsOf p) 0 |>.toText call
        return (key, argument (itemsOf p) 1))
      return .plain (Value.lastMembers members)
  | "assign" =>
      match v with
      | .object parent members =>
          return .object parent
            (Value.lastMembers
              (members ++ args.tail.flatMap (fun a => a.members)))
      | v => return v
  | "create" => return .object v []
  | "getPrototypeOf" =>
      if v.isMissing then Act.typeFault Value.noObject else return v.parent
  | "hasOwn" => do
      let key ← (argument args 1).toText call
      return .bool (v.ownProperty? key).isSome
  | "is" => return .bool (Value.same v (argument args 1))
  | "freeze" | "seal" | "preventExtensions" => return v
  | _ => return .undefined

/-- The function of every value, under its last name. -/
def onAny (call : Caller) (name : String) (v : Value) (args : List Value) :
    Act Value := do
  match name with
  | "toString" =>
      return .text (Text.units ("[object " ++ v.className ++ "]"))
  | "toLocaleString" =>
      let f ← v.property (Text.units "toString")
      call f v []
  | "valueOf" =>
      if v.isMissing then Act.typeFault Value.noObject else return v
  | "hasOwnProperty" | "propertyIsEnumerable" =>
      let key ← (argument args 0).toText call
      if v.isMissing then Act.typeFault Value.noObject
      else return .bool (v.ownProperty? key).isSome
  | "isPrototypeOf" =>
      let w := argument args 0
      return .bool (!w.isPrimitive && Value.descends v w)
  | _ => return .undefined

/-- The function of a list, under its last name. -/
def onList (call : Caller) (name : String) (v : Value) (args : List Value) :
    Act Value := do
  if v.isMissing then Act.typeFault Value.noObject
  else
    let items := itemsOf v
    let numbered := items.zipIdx
    let f := argument args 0
    let each : Value × Nat → Act Value := fun (item, i) =>
      call f .undefined [item, .ofCount i, v]
    match name with
    | "toString" =>
        let join ← v.property (Text.units "join")
        if join.isCallable then call join v []
        else return .text (Text.units ("[object " ++ v.className ++ "]"))
    | "join" =>
        let between ←
          match f with
          | .undefined => pure (Text.units ",")
          | b => b.toText call
        return .text (← joined call between items)
    | "map" => return .list (← numbered.mapM each)
    | "forEach" =>
        numbered.forM (fun p => do let _ ← each p)
        return .undefined
    | "filter" =>
        let kept ← numbered.filterM (fun p => do return (← each p).truthy)
        return .list (kept.map (fun p => p.1))
    | "some" =>
        return .bool (← numbered.anyM (fun p => do return (← each p).truthy))
    | "every" =>
        return .bool (← numbered.allM (fun p => do return (← each p).truthy))
    | "find" =>
        let found ← numbered.findM? (fun p => do return (← each p).truthy)
        return (found.map (fun p => p.1)).getD .undefined
    | "findIndex" =>
        let found ← numbered.findM? (fun p => do return (← each p).truthy)
        match found with
        | some p => return .ofCount p.2
        | none => return .number Num.one.neg
    | "flatMap" =>
        let lists ← numbered.mapM each
        return .list (lists.flatMap (fun w =>
          match w with
          | .list more => more
          | w => [w]))
    | "flat" =>
        return .list (items.flatMap (fun w =>
          match w with
          | .list more => more
          | w => [w]))
    | "reduce" =>
        let step : Value → Value × Nat → Act Value := fun sum (item, i) =>
          call f .undefined [sum, item, .ofCount i, v]
        match args, numbered with
        | _ :: first :: _, all => all.foldlM step first
        | _, (first, _) :: more => more.foldlM step first
        | _, [] =>
            Act.typeFault
              "Reduce of empty array with no initial value"
    | "includes" =>
        return .bool (items.any (fun w => Value.same w f))
    | "indexOf" =>
        match items.findIdx? (fun w => Value.same w f) with
        | some i => return .ofCount i
        | none => return .number Num.one.neg
    | "slice" =>
        let start ← place call items.length 0 f
        let stop ← place call items.length items.length (argument args 1)
        return .list ((items.take stop).drop start)
    | "concat" =>
        return .list (items ++ args.flatMap (fun w =>
          match w with
          | .list more => more
          | w => [w]))
    | "toReversed" => return .list items.reverse
    | "at" =>
        let n ← f.toNumber call
        match n.whole? with
        | some i =>
            let i := if i < 0 then i + items.length else i
            return if i < 0 then .undefined
              else (items[i.toNat]?).getD .undefined
        | none => return .undefined
    | _ => return .undefined

/-- The function of a text, under its last name. -/
def onText (call : Caller) (name : String) (v : Value) (args : List Value) :
    Act Value := do
  if v.isMissing then Act.typeFault Value.noObject
  else
    let units ← v.toText call
    let a := argument args 0
    let asText (v : Value) : Act (List Nat) := v.toText call
    match name with
    | "toString" | "valueOf" =>
        match v with
        | .text _ => return v
        | _ => Act.typeFault "'this' is not a string"
    | "charAt" =>
        let i ← place call units.length 0 a
        return .text ((units.drop i).take 1)
    | "charCodeAt" =>
        let i ← place call units.length 0 a
        match units[i]? with
        | some u => return .ofCount u
        | none => return .number .nan
    | "concat" =>
        return .text (units ++ (← args.mapM asText).flatten)
    | "includes" => return .bool (placeOf? (← asText a) 0 units).isSome
    | "indexOf" =>
        match placeOf? (← asText a) 0 units with
        | some i => return .ofCount i
        | none => return .number Num.one.neg
    | "startsWith" => return .bool ((← asText a).isPrefixOf units)
    | "endsWith" => return .bool ((← asText a).isSuffixOf units)
    | "slice" =>
        let start ← place call units.length 0 a
        let stop ← place call units.length units.length (argument args 1)
        return .text ((units.take stop).drop start)
    | "substring" =>
        let unsigned (v : Value) (ifMissing : Nat) : Act Nat := do
          match v with
          | .undefined => return ifMissing
          | v =>
              if ((← v.toNumber call).less? .zero).getD true then return 0
              else place call units.length ifMissing v
        let i ← unsigned a 0
        let j ← unsigned (argument args 1) units.length
        return .text ((units.take (max i j)).drop (min i j))
    | "toUpperCase" =>
        return .text ((Text.glyphs units).flatMap (fun g =>
          match g with
          | .char c => (Text.upperChar c).flatMap Text.charUnits
          | .half u => [u]))
    | "trim" =>
        return .text ((Num.trimmed (Value.charsOf units)).flatMap
          Text.charUnits)
    | "repeat" =>
        let n ← place call 100000 0 a
        return .text (List.replicate n units).flatten
    | _ => return .undefined

/-- The value of a function that is always there. -/
def apply (call : Caller) (path : String) (itself : Value)
    (args : List Value) : Act Value := do
  let v := argument args 0
  let name := Library.lastName path
  match Library.owner path with
  | "" =>
      if name = "Error" || Library.faultNames.contains name then
        newFault call name args
      else
        match name with
        | "String" =>
            if args.isEmpty then return .text []
            else return .text (← v.toText call)
        | "Number" =>
            if args.isEmpty then return .number .zero
            else
              match ← v.toNumeric call with
              | .inl n => return .number (Num.ofInt n)
              | .inr n => return .number n
        | "Boolean" => return .bool v.truthy
        | "Object" => return if v.isMissing then .plain [] else v
        | "Array" =>
            match args with
            | [.number n] =>
                match n.whole? with
                | some size =>
                    return .list
                      (List.replicate (min size.toNat 100000) .undefined)
                | none => Act.fault "RangeError" "invalid array length"
            | args => return .list args
        | "BigInt" =>
            match ← v.toNumeric call with
            | .inl n => return .big n
            | .inr n =>
                match n.whole? with
                | some n => return .big n
                | none => Act.fault "RangeError" "cannot convert to BigInt"
        | "isNaN" =>
            return .bool ((← v.toNumber call) == .nan)
        | "isFinite" =>
            match ← v.toNumber call with
            | .finite _ => return .bool true
            | _ => return .bool false
        | _ => return .undefined
  | "Object" => onObject call name args
  | "Object.prototype" => onAny call name itself args
  | "Function.prototype" =>
      match name with
      | "call" => call itself v args.tail
      | "apply" => call itself v (itemsOf (argument args 1))
      | "toString" =>
          if itself.isCallable then
            match itself with
            | .builtin p =>
                return .text
                  (Value.shownFunction (Text.units (Library.shownName p)))
            | .function _ n _ => return .text (Value.shownFunction n)
            | _ => return .undefined
          else Act.typeFault "Not a function"
      | _ => return .undefined
  | "Array" =>
      match name with
      | "isArray" =>
          match v with
          | .list _ => return .bool true
          | _ => return .bool false
      | "of" => return .list args
      | "from" => return .list (itemsOf v)
      | _ => return .undefined
  | "Array.prototype" => onList call name itself args
  | "String.prototype" => onText call name itself args
  | "Error.prototype" =>
      if itself.isPrimitive then Act.typeFault "'this' is not an Object"
      else return .text (← faultText call itself)
  | "Boolean.prototype" =>
      match itself with
      | .bool b =>
          if name = "valueOf" then return itself
          else return .ofString (toString b)
      | _ => Act.typeFault "'this' is not a boolean"
  | "Number.prototype" =>
      match itself with
      | .number n =>
          if name = "valueOf" then return itself else return .ofString n.text
      | _ => Act.typeFault "'this' is not a number"
  | "BigInt.prototype" =>
      match itself with
      | .big n =>
          if name = "valueOf" then return itself
          else return .ofString (toString n)
      | _ => Act.typeFault "'this' is not a BigInt"
  | "Number" =>
      match name, v with
      | "isNaN", .number n => return .bool (n == .nan)
      | "isFinite", .number (.finite _) => return .bool true
      | "isInteger", v | "isSafeInteger", v => return .bool (isWhole v)
      | _, _ => return .bool false
  | "Math" =>
      match mathFunction? name with
      | some f => return .number (f (← v.toNumber call))
      | none =>
          match name with
          | "max" | "min" =>
              let numbers ← args.mapM (fun a => a.toNumber call)
              return .number (extreme (name == "max") numbers)
          | "pow" =>
              let a ← v.toNumber call
              let b ← (argument args 1).toNumber call
              return .number (a.pow b)
          | _ => return .number .nan
  | _ => return .undefined

/-- What a function that is always there makes. -/
def construct (call : Caller) (path : String) (args : List Value) :
    Act Value := do
  match path with
  | "String" | "Number" | "Boolean" | "Symbol" | "BigInt" => return .plain []
  | path =>
      if Library.withoutParent.contains path
          || !(Library.owner path).isEmpty then
        Act.typeFault "not a constructor"
      else
        match ← apply call path .undefined args with
        | .undefined =>
            return .object (.builtin (Library.under path "prototype")) []
        | v => return v

end Builtin
end NodeFlow.Script
