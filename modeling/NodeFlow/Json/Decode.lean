import NodeFlow.Json.Printer

/-! # Decoding

    A decoder takes a JSON value to a value of some type, or says what is
    wrong with it.  A record may be given as an object, whose members with
    unknown names are passed over, or as the list of its fields in
    declaration order, from which fields at the end may be missing if they
    have a default. -/

namespace NodeFlow

/-- What is wrong with a JSON value. -/
inductive DecodeError where
  /-- A value of another kind was expected. -/
  | wrongKind (found : Json) (expected : String)
  /-- A value of this kind, but not this one, was expected. -/
  | wrongValue (found : Json) (expected : String)
  /-- A field without a default is missing. -/
  | missing (field : String)
  /-- A list has the wrong length. -/
  | wrongLength (length : Nat) (expected : String)
  /-- A name is none of those expected. -/
  | unknownName (name : String) (expected : List String)
  /-- A text has not the form that it should have. -/
  | malformed (reason : String)
  deriving DecidableEq, Repr

namespace DecodeError

/-- A value in a few words. -/
def describe : Json → String
  | .null => "null"
  | .bool b => "boolean `" ++ (if b then "true" else "false") ++ "`"
  | .number (.whole n) => "integer `" ++ toString n ++ "`"
  | .number (.real x) =>
      "floating point `" ++ (Number.real x).text ++ "`"
  | .str s => "string " ++ Json.quoted s
  | .arr _ => "sequence"
  | .obj _ => "map"

/-- The names that were expected. -/
def alternatives : List String → String
  | [] => "there are no variants"
  | [a] => "expected `" ++ a ++ "`"
  | [a, b] => "expected `" ++ a ++ "` or `" ++ b ++ "`"
  | names =>
      "expected one of "
        ++ ", ".intercalate (names.map (fun n => "`" ++ n ++ "`"))

/-- The wording of an error. -/
def message : DecodeError → String
  | .wrongKind v expected =>
      "invalid type: " ++ describe v ++ ", expected " ++ expected
  | .wrongValue v expected =>
      "invalid value: " ++ describe v ++ ", expected " ++ expected
  | .missing field => "missing field `" ++ field ++ "`"
  | .wrongLength n expected =>
      "invalid length " ++ toString n ++ ", expected " ++ expected
  | .unknownName name expected =>
      "unknown variant `" ++ name ++ "`, " ++ alternatives expected
  | .malformed reason => reason

end DecodeError

/-- The outcome of decoding. -/
abbrev Decoded (α : Type) : Type := Except DecodeError α

namespace Json

/-- Any value. -/
def toAny (v : Json) : Decoded Json := .ok v

/-- A text. -/
def toText : Json → Decoded String
  | .str s => .ok s
  | v => .error (.wrongKind v "a string")

/-- A truth value. -/
def toBool : Json → Decoded Bool
  | .bool b => .ok b
  | v => .error (.wrongKind v "a boolean")

/-- A whole number from `low` up to but not including `limit`. -/
def toWhole (low limit : Int) (expected : String) : Json → Decoded Int
  | .number (.whole n) =>
      if low ≤ n && n < limit then .ok n
      else .error (.wrongValue (.number (.whole n)) expected)
  | v => .error (.wrongKind v expected)

/-- A natural number of 64 bits. -/
def toWord (v : Json) : Decoded Nat :=
  (v.toWhole 0 (2 ^ 64) "u64").map Int.toNat

/-- A natural number of 64 bits that counts places. -/
def toIndex (v : Json) : Decoded Nat :=
  (v.toWhole 0 (2 ^ 64) "usize").map Int.toNat

/-- A natural number of 32 bits. -/
def toHalfWord (v : Json) : Decoded Nat :=
  (v.toWhole 0 (2 ^ 32) "u32").map Int.toNat

/-- A signed number of 32 bits. -/
def toSigned (v : Json) : Decoded Int :=
  v.toWhole (-(2 ^ 31)) (2 ^ 31) "i32"

/-- A value that may be `null`. -/
def toOption {α : Type} (item : Json → Decoded α) : Json → Decoded (Option α)
  | .null => .ok none
  | v => (item v).map some

/-- A list. -/
def toList {α : Type} (item : Json → Decoded α) : Json → Decoded (List α)
  | .arr items => items.mapM item
  | v => .error (.wrongKind v "a sequence")

/-- A table under any names. -/
def toTable {α : Type} (item : Json → Decoded α) :
    Json → Decoded (Table String α)
  | .obj members => do
      let pairs ← (tableOf members).entries.mapM
        (fun (k, v) => (item v).map (fun a => (k, a)))
      .ok (Table.ofList pairs)
  | v => .error (.wrongKind v "a map")

end Json

/-- The fields of a record that is being decoded. -/
inductive Fields where
  /-- By name. -/
  | named (members : Table String Json)
  /-- By position; `expected` describes the whole record. -/
  | listed (items : List Json) (expected : String)

namespace Fields

/-- The fields of a record of `count` fields. -/
def ofJson (name : String) (count : Nat) : Json → Decoded Fields
  | .obj members => .ok (.named (Json.tableOf members))
  | .arr items =>
      if items.length ≤ count then
        .ok (.listed items
          ("struct " ++ name ++ " with " ++ toString count ++ " element"
            ++ (if count = 1 then "" else "s")))
      else .error (.wrongLength items.length "fewer elements in array")
  | v => .error (.wrongKind v ("struct " ++ name))

/-- The value given for a field. -/
def given? (fields : Fields) (position : Nat) (name : String) :
    Option Json :=
  match fields with
  | .named members => members.get? name
  | .listed items _ => items[position]?

/-- The decoded value of a field, if one is given. -/
def find? {α : Type} (fields : Fields) (position : Nat) (name : String)
    (item : Json → Decoded α) : Decoded (Option α) :=
  match fields.given? position name with
  | some v => (item v).map some
  | none => .ok none

/-- The error for a field that is not given. -/
def absent (fields : Fields) (position : Nat) (name : String) : DecodeError :=
  match fields with
  | .named _ => .missing name
  | .listed _ expected => .wrongLength position expected

/-- The value of a field that must be given. -/
def require {α : Type} (fields : Fields) (position : Nat) (name : String)
    (found : Option α) : Decoded α :=
  match found with
  | some a => .ok a
  | none => .error (fields.absent position name)

/-- The value of a field that must be given. -/
def get {α : Type} (fields : Fields) (position : Nat) (name : String)
    (item : Json → Decoded α) : Decoded α := do
  fields.require position name (← fields.find? position name item)

/-- The value of a field with a default. -/
def getD {α : Type} (fields : Fields) (position : Nat) (name : String)
    (item : Json → Decoded α) (default : α) : Decoded α := do
  .ok ((← fields.find? position name item).getD default)

/-- The value of an optional field: it may be missing by name or be `null`,
    and by position it may be missing if it `trails`. -/
def getOption {α : Type} (fields : Fields) (position : Nat) (name : String)
    (item : Json → Decoded α) (trails : Bool) : Decoded (Option α) := do
  match fields, ← fields.find? position name (Json.toOption item) with
  | _, some v => .ok v
  | .named _, none => .ok none
  | .listed _ _, none =>
      if trails then .ok none else .error (fields.absent position name)

end Fields
end NodeFlow
