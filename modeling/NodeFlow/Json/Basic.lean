import NodeFlow.Table
import NodeFlow.Number.Binary64

/-! # JSON values

    Numbers are whole numbers where the format keeps them exact (64 bits,
    signed or unsigned) and binary64 numbers elsewhere.  The members of an
    object are a list of pairs; a value that was read lists them in ascending
    key order without repetition, which is what `Json.ofTable` gives, and so
    does the encoded form of the workflow and its parts.  A value that is
    made to be printed lists them in the order of the page. -/

namespace NodeFlow

/-- A JSON number. -/
inductive Number where
  /-- A whole number kept exactly. -/
  | whole (n : Int)
  /-- Any other number. -/
  | real (x : Binary64)
  deriving DecidableEq, Repr, Inhabited

/-- A JSON value. -/
inductive Json where
  /-- No value. -/
  | null
  /-- A truth value. -/
  | bool (b : Bool)
  /-- A number. -/
  | number (n : Number)
  /-- A text. -/
  | str (s : String)
  /-- A list of values. -/
  | arr (items : List Json)
  /-- Named members. -/
  | obj (members : List (String × Json))
  deriving Repr, Inhabited

namespace Json

/-- A whole number as a value. -/
def ofInt (n : Int) : Json := .number (.whole n)

/-- A natural number as a value. -/
def ofNat (n : Nat) : Json := .number (.whole n)

/-- A table as an object with ascending keys. -/
def ofTable (t : Table String Json) : Json := .obj t.entries

/-- The members of an object as a table; of two members with one name the
    last counts. -/
def tableOf (members : List (String × Json)) : Table String Json :=
  Table.ofList members

@[simp] theorem tableOf_entries (t : Table String Json) :
    tableOf t.entries = t := Table.ofList_entries t

/-- The text of a string value. -/
def asString? : Json → Option String
  | .str s => some s
  | _ => none

/-- The value unless it is `null`. -/
def nonNull? : Json → Option Json
  | .null => none
  | v => some v

/-! ## Equality is decidable -/

mutual

/-- Decides equality of two values. -/
def decEq : (a b : Json) → Decidable (a = b)
  | .null, .null => isTrue rfl
  | .bool a, .bool b =>
      if h : a = b then isTrue (h ▸ rfl) else isFalse (by simp [h])
  | .number a, .number b =>
      if h : a = b then isTrue (h ▸ rfl) else isFalse (by simp [h])
  | .str a, .str b =>
      if h : a = b then isTrue (h ▸ rfl) else isFalse (by simp [h])
  | .arr a, .arr b =>
      match decEqItems a b with
      | isTrue h => isTrue (h ▸ rfl)
      | isFalse h => isFalse (by simp [h])
  | .obj a, .obj b =>
      match decEqMembers a b with
      | isTrue h => isTrue (h ▸ rfl)
      | isFalse h => isFalse (by simp [h])
  | .null, .bool _ | .null, .number _ | .null, .str _ | .null, .arr _
  | .null, .obj _ | .bool _, .null | .bool _, .number _ | .bool _, .str _
  | .bool _, .arr _ | .bool _, .obj _ | .number _, .null
  | .number _, .bool _ | .number _, .str _ | .number _, .arr _
  | .number _, .obj _ | .str _, .null | .str _, .bool _ | .str _, .number _
  | .str _, .arr _ | .str _, .obj _ | .arr _, .null | .arr _, .bool _
  | .arr _, .number _ | .arr _, .str _ | .arr _, .obj _ | .obj _, .null
  | .obj _, .bool _ | .obj _, .number _ | .obj _, .str _
  | .obj _, .arr _ => isFalse nofun

/-- Decides equality of two lists of values. -/
def decEqItems : (a b : List Json) → Decidable (a = b)
  | [], [] => isTrue rfl
  | [], _ :: _ => isFalse nofun
  | _ :: _, [] => isFalse nofun
  | x :: xs, y :: ys =>
      match decEq x y, decEqItems xs ys with
      | isTrue h, isTrue k => isTrue (by rw [h, k])
      | isFalse h, _ => isFalse (by simp [h])
      | _, isFalse k => isFalse (by simp [k])

/-- Decides equality of two lists of members. -/
def decEqMembers : (a b : List (String × Json)) → Decidable (a = b)
  | [], [] => isTrue rfl
  | [], _ :: _ => isFalse nofun
  | _ :: _, [] => isFalse nofun
  | (k, x) :: xs, (l, y) :: ys =>
      if hk : k = l then
        match decEq x y, decEqMembers xs ys with
        | isTrue h, isTrue g => isTrue (by rw [hk, h, g])
        | isFalse h, _ => isFalse (by simp [h])
        | _, isFalse g => isFalse (by simp [g])
      else isFalse (by simp [hk])

end

instance : DecidableEq Json := decEq

end Json
end NodeFlow
