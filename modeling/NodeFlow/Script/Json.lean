import NodeFlow.Script.Eval

/-! # JSON text of values

    A value may say by a function what is to be written in its place; then
    the value is settled.  `Value.json?` writes a settled value.  A value that
    JSON cannot express has no JSON text. -/

namespace NodeFlow.Script

namespace Value

/-- The JSON text of a glyph: a lone half is escaped. -/
def glyphJson : Text.Glyph → List Char
  | .char c => Json.escapeChar c
  | .half unit => Json.unitEscape unit

/-- The JSON text of a text. -/
def quotedUnits (units : List Nat) : String :=
  "\"" ++ String.ofList ((Text.glyphs units).flatMap glyphJson) ++ "\""

mutual

/-- The JSON text of a settled value; nothing for a value that JSON cannot
    express. -/
def json? : Value → Option String
  | .undefined | .function _ _ _ | .big _ => none
  | .null => some "null"
  | .bool b => some (if b then "true" else "false")
  | .number (.finite x) => some (Num.finite x).text
  | .number _ => some "null"
  | .text units => some (quotedUnits units)
  | .list items => some ("[" ++ ",".intercalate (itemsJson items) ++ "]")
  | .object _ members =>
      some ("\x7b" ++ ",".intercalate (membersJson members) ++ "\x7d")
  | .arguments items =>
      some ("\x7b" ++ ",".intercalate (placedJson 0 items) ++ "\x7d")
  | .fault _ _ => some "\x7b\x7d"
  | .builtin path =>
      if (Library.arity? path).isSome then none
      else if path = "Array.prototype" then some "[]"
      else some "\x7b\x7d"

/-- The JSON texts of items.  What JSON cannot express is `null`. -/
def itemsJson : List Value → List String
  | [] => []
  | v :: rest => (json? v).getD "null" :: itemsJson rest

/-- The JSON texts of members.  What JSON cannot express is left out. -/
def membersJson : List (List Nat × Value) → List String
  | [] => []
  | (k, v) :: rest =>
      ((json? v).map (fun t => quotedUnits k ++ ":" ++ t)).toList
        ++ membersJson rest

/-- The JSON texts of items under their places.  What JSON cannot express is
    left out. -/
def placedJson : Nat → List Value → List String
  | _, [] => []
  | i, v :: rest =>
      ((json? v).map (fun t => "\"" ++ toString i ++ "\":" ++ t)).toList
        ++ placedJson (i + 1) rest

end

/-- What is to be written in the place of a value under a name. -/
def settled : Nat → List Nat → Value → Act Value
  | 0, _, _ => throw .endless
  | fuel + 1, key, v => do
      let w ←
        match v with
        | .undefined | .null | .bool _ | .number _ | .text _ => pure v
        | v =>
            match ← v.property (Text.units "toJSON") with
            | f => if f.isCallable then call f v [.text key] else pure v
      match w with
      | .big _ => Act.typeFault "cannot serialize bigint to JSON"
      | .list items =>
          return .list (← items.zipIdx.mapM (fun (item, i) =>
            settled fuel (Text.units (toString i)) item))
      | .arguments items =>
          return .arguments (← items.zipIdx.mapM (fun (item, i) =>
            settled fuel (Text.units (toString i)) item))
      | .object parent members =>
          return .object parent (← members.mapM (fun (k, item) => do
            return (k, ← settled fuel k item)))
      | w => return w

end Value
end NodeFlow.Script
