import NodeFlow.Script.Value

/-! # What a script finds around it

    Functions, parents of values and constants are always there under their
    names.  A name with dots is that of a property of another one. -/

namespace NodeFlow.Script

namespace Library

/-- The kinds of errors besides the general one. -/
def faultNames : List String :=
  ["EvalError", "RangeError", "ReferenceError", "SyntaxError", "TypeError",
    "URIError"]

/-- The functions, under the names of what they are properties of; each with
    the number of its arguments. -/
def functionTable : List (String × String) :=
  [("", "Object/1 Function/1 Array/1 Number/1 parseFloat/1 parseInt/2 "
      ++ "Boolean/1 String/1 Symbol/0 Date/7 Promise/1 RegExp/2 Error/1 "
      ++ "AggregateError/2 EvalError/1 RangeError/1 ReferenceError/1 "
      ++ "SyntaxError/1 TypeError/1 URIError/1 ArrayBuffer/1 Uint8Array/3 "
      ++ "Int8Array/3 Uint16Array/3 Int16Array/3 Uint32Array/3 Int32Array/3 "
      ++ "Float32Array/3 Float64Array/3 Uint8ClampedArray/3 BigUint64Array/3 "
      ++ "BigInt64Array/3 DataView/1 Map/0 BigInt/1 Set/0 WeakMap/0 WeakSet/0 "
      ++ "Proxy/2 FinalizationRegistry/1 WeakRef/1 SharedArrayBuffer/1 "
      ++ "decodeURI/1 decodeURIComponent/1 encodeURI/1 encodeURIComponent/1 "
      ++ "escape/1 unescape/1 eval/1 isFinite/1 isNaN/1"),
    ("Object", "assign/2 create/2 defineProperties/2 defineProperty/3 "
      ++ "entries/1 freeze/1 fromEntries/1 getOwnPropertyDescriptor/2 "
      ++ "getOwnPropertyDescriptors/1 getOwnPropertyNames/1 "
      ++ "getOwnPropertySymbols/1 getPrototypeOf/1 groupBy/2 hasOwn/2 is/2 "
      ++ "isExtensible/1 isFrozen/1 isSealed/1 keys/1 preventExtensions/1 "
      ++ "seal/1 setPrototypeOf/2 values/1"),
    ("Object.prototype", "__defineGetter__/2 __defineSetter__/2 "
      ++ "hasOwnProperty/1 __lookupGetter__/1 __lookupSetter__/1 "
      ++ "isPrototypeOf/1 propertyIsEnumerable/1 toString/0 valueOf/0 "
      ++ "toLocaleString/0"),
    ("Function.prototype", "apply/2 bind/1 call/1 toString/0"),
    ("Array", "from/1 fromAsync/1 isArray/1 of/0"),
    ("Array.prototype", "at/1 concat/1 copyWithin/2 entries/0 every/1 fill/1 "
      ++ "filter/1 find/1 findIndex/1 findLast/1 findLastIndex/1 flat/0 "
      ++ "flatMap/1 forEach/1 includes/1 indexOf/1 join/1 keys/0 "
      ++ "lastIndexOf/1 map/1 pop/0 push/1 reduce/1 reduceRight/1 reverse/0 "
      ++ "shift/0 slice/2 some/1 sort/1 splice/2 toLocaleString/0 "
      ++ "toReversed/0 toSorted/1 toSpliced/2 toString/0 unshift/1 values/0 "
      ++ "with/2"),
    ("String", "fromCharCode/1 fromCodePoint/1 raw/1"),
    ("String.prototype", "anchor/1 at/1 big/0 blink/0 bold/0 charAt/1 "
      ++ "charCodeAt/1 codePointAt/1 concat/1 endsWith/1 fixed/0 fontcolor/1 "
      ++ "fontsize/1 includes/1 indexOf/1 isWellFormed/0 italics/0 "
      ++ "lastIndexOf/1 link/1 localeCompare/1 match/1 matchAll/1 "
      ++ "normalize/0 padEnd/1 padStart/1 repeat/1 replace/2 replaceAll/2 "
      ++ "search/1 slice/2 small/0 split/2 startsWith/1 strike/0 sub/0 "
      ++ "substr/2 substring/2 sup/0 toLocaleLowerCase/0 "
      ++ "toLocaleUpperCase/0 toLowerCase/0 toString/0 toUpperCase/0 "
      ++ "toWellFormed/0 trim/0 trimEnd/0 trimLeft/0 trimRight/0 trimStart/0 "
      ++ "valueOf/0"),
    ("Number", "isFinite/1 isInteger/1 isNaN/1 isSafeInteger/1 parseFloat/1 "
      ++ "parseInt/2"),
    ("Number.prototype", "toExponential/1 toFixed/1 toLocaleString/0 "
      ++ "toPrecision/1 toString/1 valueOf/0"),
    ("Boolean.prototype", "toString/0 valueOf/0"),
    ("BigInt", "asIntN/2 asUintN/2"),
    ("BigInt.prototype", "toLocaleString/0 toString/0 valueOf/0"),
    ("Error.prototype", "toString/0"),
    ("Math", "abs/1 acos/1 acosh/1 asin/1 asinh/1 atan/1 atan2/2 atanh/1 "
      ++ "cbrt/1 ceil/1 clz32/1 cos/1 cosh/1 exp/1 expm1/1 floor/1 fround/1 "
      ++ "hypot/2 imul/2 log/1 log10/1 log1p/1 log2/1 max/2 min/2 pow/2 "
      ++ "random/0 round/1 sign/1 sin/1 sinh/1 sqrt/1 tan/1 tanh/1 trunc/1"),
    ("JSON", "parse/2 stringify/3"),
    ("Reflect", "apply/3 construct/2 defineProperty/3 deleteProperty/2 get/2 "
      ++ "getOwnPropertyDescriptor/2 getPrototypeOf/1 has/2 isExtensible/1 "
      ++ "ownKeys/1 preventExtensions/1 set/3 setPrototypeOf/2")]

/-- The functions that make no objects with a parent of their own. -/
def withoutParent : List String :=
  ["parseFloat", "parseInt", "Proxy", "decodeURI", "decodeURIComponent",
    "encodeURI", "encodeURIComponent", "escape", "unescape", "eval",
    "isFinite", "isNaN"]

/-- What is there besides functions and parents. -/
def spaces : List String := ["Math", "JSON", "Reflect", "globalThis", "Atomics"]

/-- Numbers: the digits and the scale of each. -/
def numbers : List (String × Nat × Int) :=
  [("Math.E", 2718281828459045, -15), ("Math.LN10", 2302585092994046, -15),
    ("Math.LN2", 6931471805599453, -16),
    ("Math.LOG10E", 4342944819032518, -16),
    ("Math.LOG2E", 14426950408889634, -16),
    ("Math.PI", 3141592653589793, -15),
    ("Math.SQRT1_2", 7071067811865476, -16),
    ("Math.SQRT2", 14142135623730951, -16),
    ("Number.EPSILON", 2220446049250313, -31),
    ("Number.MAX_SAFE_INTEGER", 9007199254740991, 0),
    ("Number.MAX_VALUE", 17976931348623157, 292),
    ("Number.MIN_VALUE", 5, -324)]

/-- All other values. -/
def values : List (String × Value) :=
  [("Infinity", .number (.infinite false)), ("NaN", .number .nan),
    ("undefined", .undefined), ("Number.NaN", .number .nan),
    ("Number.NEGATIVE_INFINITY", .number (.infinite true)),
    ("Number.POSITIVE_INFINITY", .number (.infinite false)),
    ("Number.MIN_SAFE_INTEGER",
      .number (Num.ofDecimal 9007199254740991 0).neg),
    ("Array.prototype.length", Value.ofCount 0),
    ("String.prototype.length", Value.ofCount 0),
    ("Error.prototype.message", .text [])]

/-- The path of a property. -/
def under (path name : String) : String :=
  if path.isEmpty || path = "globalThis" then name else path ++ "." ++ name

/-- The last name of a path. -/
def lastName (path : String) : String := (path.splitOn ".").getLast?.getD ""

/-- The path of what a path is a property of. -/
def owner (path : String) : String :=
  ".".intercalate (path.splitOn ".").dropLast

/-- The functions of an owner, each with the number of its arguments. -/
def functionsOf (path : String) : List (String × Nat) :=
  (((functionTable.lookup path).getD "").splitOn " ").filterMap (fun entry =>
    match entry.splitOn "/" with
    | [name, arity] => some (name, Numeral.digitsValue arity.toList)
    | _ => none)

/-- The number of arguments of a function; nothing if the path is none of a
    function. -/
def arity? (path : String) : Option Nat :=
  if path = "Function.prototype" then some 0
  else (functionsOf (owner path)).lookup (lastName path)

/-- Whether a path is that of a parent of values. -/
def isParent (path : String) : Bool :=
  lastName path = "prototype" && !(owner path).isEmpty

/-- The name that is shown for a function. -/
def shownName (path : String) : String :=
  if isParent path then "" else lastName path

/-- Whether something is there under a path. -/
def isThere (path : String) : Bool :=
  (arity? path).isSome || spaces.contains path
    || (isParent path && (arity? (owner path)).isSome
      && !withoutParent.contains (owner path)
      && (owner (owner path)).isEmpty)

/-- What is there under a path. -/
def find? (path : String) : Option Value :=
  match values.lookup path, numbers.lookup path with
  | some v, _ => some v
  | none, some (digits, scale) => some (.number (Num.ofDecimal digits scale))
  | none, none => if isThere path then some (.builtin path) else none

/-- A property of what is there under a path. -/
def property? (path name : String) : Option Value :=
  match find? (under path name) with
  | some v => some v
  | none =>
      if name = "constructor" && isParent path then
        some (.builtin (owner path))
      else if name = "name" && isParent path
          && ("Error" :: faultNames).contains (owner path) then
        some (.ofString (owner path))
      else
        match arity? path with
        | none => none
        | some n =>
            if name = "name" then some (.ofString (shownName path))
            else if name = "length" then some (Value.ofCount n)
            else none

/-- The parent of what is there under a path. -/
def parentOf (path : String) : Value :=
  if path = "Object.prototype" then .null
  else if isParent path then
    if faultNames.contains (owner path) then .builtin "Error.prototype"
    else Value.root
  else if faultNames.contains path then .builtin "Error"
  else if (arity? path).isSome then .builtin "Function.prototype"
  else Value.root

end Library

namespace Value

/-- The parent of a value. -/
def parent : Value → Value
  | .undefined | .null => .null
  | .bool _ => .builtin "Boolean.prototype"
  | .number _ => .builtin "Number.prototype"
  | .big _ => .builtin "BigInt.prototype"
  | .text _ => .builtin "String.prototype"
  | .list _ => .builtin "Array.prototype"
  | .object p _ => p
  | .fault name _ => .builtin (name ++ ".prototype")
  | .arguments _ => root
  | .function _ _ _ => .builtin "Function.prototype"
  | .builtin path => Library.parentOf path

/-- The name that a key is, if it is made of characters. -/
def nameOf? (key : List Nat) : Option String :=
  if key.all (fun u => u < 0x80) then
    some (String.ofList (key.map Char.ofNat))
  else none

/-- A property that a value has itself. -/
def ownProperty? (key : List Nat) : Value → Option Value
  | .object _ members => lookup key members
  | .list items =>
      if key = Text.units "length" then some (ofCount items.length)
      else (placeOf? key).bind (fun i => items[i]?)
  | .arguments items =>
      if key = Text.units "length" then some (ofCount items.length)
      else (placeOf? key).bind (fun i => items[i]?)
  | .text units =>
      if key = Text.units "length" then some (ofCount units.length)
      else
        ((placeOf? key).bind (fun i => units[i]?)).map (fun u => .text [u])
  | .fault _ message =>
      if key = Text.units "message" then message.map .text else none
  | .function _ name arity =>
      if key = Text.units "name" then some (.text name)
      else if key = Text.units "length" then some (ofCount arity)
      else if key = Text.units "prototype" then some (plain [])
      else none
  | .builtin path => (nameOf? key).bind (Library.property? path)
  | _ => none

/-- More parents than stand one behind the other without an object of the
    script among them. -/
def longestChain : Nat := 5

/-- A property of a value that the script has not made, or of one of its
    parents. -/
def settledProperty? (key : List Nat) (receiver : Value) :
    Nat → Value → Option Value
  | 0, _ => none
  | fuel + 1, v =>
      match v with
      | .null | .undefined => none
      | v =>
          match v.ownProperty? key with
          | some w => some w
          | none =>
              match v with
              | .builtin "Object.prototype" =>
                  if key = Text.units "__proto__" then some receiver.parent
                  else none
              | v => settledProperty? key receiver fuel v.parent

/-- A property of a value or of one of its parents, for a receiver. -/
def chainProperty? (key : List Nat) (receiver : Value) :
    Value → Option Value
  | .object parent members =>
      match lookup key members with
      | some v => some v
      | none => chainProperty? key receiver parent
  | v => settledProperty? key receiver longestChain v

/-- A property; nothing when the value can have no properties. -/
def property? (key : List Nat) (v : Value) : Option Value :=
  match v with
  | .undefined | .null => none
  | v => some ((chainProperty? key v v).getD .undefined)

/-- Whether a value can be called. -/
def isCallable : Value → Bool
  | .function _ _ _ => true
  | .builtin path => (Library.arity? path).isSome
  | _ => false

end Value
end NodeFlow.Script
