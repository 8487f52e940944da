import NodeFlow.Json.Tree

/-! # Settling a tree into a value

    A text is read for a purpose, and the purpose decides which of its faults
    matter.  A shape says what is wanted: for a record, the members with
    known names, which must not be repeated, while members with other names
    are passed over.  Whatever is wanted must consist of texts and numbers
    that exist and must not nest deeper than `deepest`.

    In a value of no particular shape the last of two members with one name
    counts; where the values have a type of their own, both must be values of
    it.

    A shape also says how a value is laid out when it is written: the members
    of a record come in declaration order. -/

namespace NodeFlow.Json

/-- The greatest number of containers around and including one value. -/
def deepest : Nat := 127

/-- What is wanted of a tree. -/
inductive Shape where
  /-- A value of any kind. -/
  | any
  /-- A list of values of one shape. -/
  | list (item : Shape)
  /-- An object of values of one shape under any names, all of them
      `sound`. -/
  | dict (value : Shape) (sound : Json → Bool)
  /-- If it is an object, one with a single member. -/
  | sole
  /-- A record with these members, in declaration order.  When `checked`,
      members with other names must be sound values too. -/
  | record (fields : List (String × Shape)) (checked : Bool)
  deriving Inhabited

/-- The shape of a field, if it is known. -/
def fieldShape? (name : String) : List (String × Shape) → Option Shape
  | [] => none
  | (n, s) :: rest => if n = name then some s else fieldShape? name rest

mutual

/-- The value of a tree, as far as the shape wants it, with `depth`
    containers still allowed; `none` when the tree has a fault that
    matters. -/
def settle (shape : Shape) (depth : Nat) : Tree → Option Json
  | .literal none => some .null
  | .literal (some b) => some (.bool b)
  | .numeral n => n.value?.map .number
  | .text s => s.map .str
  | .list items =>
      match depth with
      | 0 => none
      | depth + 1 =>
          match shape with
          | .list item => (settleItems item depth items).map .arr
          | .record fields _ =>
              (settlePositions (fields.map (·.2)) depth items).map .arr
          | _ => (settleItems .any depth items).map .arr
  | .object members =>
      match depth with
      | 0 => none
      | depth + 1 =>
          match shape with
          | .record fields checked =>
              settleFields fields checked depth Table.empty members
          | .dict value sound => do
              let ms ← settleMembers value depth members
              if ms.all (fun m => sound m.2) then some (ofTable (tableOf ms))
              else none
          | .sole =>
              if members.length = 1 then
                (settleMembers .any depth members).map .obj
              else none
          | _ =>
              (settleMembers .any depth members).map
                (fun ms => ofTable (tableOf ms))

/-- Every item in one shape. -/
def settleItems (shape : Shape) (depth : Nat) :
    List Tree → Option (List Json)
  | [] => some []
  | t :: rest => do
      let v ← settle shape depth t
      let vs ← settleItems shape depth rest
      some (v :: vs)

/-- Items in the shapes of the fields, one after the other. -/
def settlePositions (shapes : List Shape) (depth : Nat) :
    List Tree → Option (List Json)
  | [] => some []
  | t :: rest => do
      let v ← settle (shapes.headD .any) depth t
      let vs ← settlePositions shapes.tail depth rest
      some (v :: vs)

/-- Every member in one shape. -/
def settleMembers (shape : Shape) (depth : Nat) :
    List (Option String × Tree) → Option (List (String × Json))
  | [] => some []
  | (name, t) :: rest => do
      let n ← name
      let v ← settle shape depth t
      let ms ← settleMembers shape depth rest
      some ((n, v) :: ms)

/-- The known members, none of them twice. -/
def settleFields (fields : List (String × Shape)) (checked : Bool)
    (depth : Nat) (known : Table String Json) :
    List (Option String × Tree) → Option Json
  | [] => some (ofTable known)
  | (name, t) :: rest => do
      let n ← name
      match fieldShape? n fields with
      | some shape =>
          if known.contains n then none
          else
            let v ← settle shape depth t
            settleFields fields checked depth (known.insert n v) rest
      | none =>
          if checked && (settle .any depth t).isNone then none
          else settleFields fields checked depth known rest

end

mutual

/-- A value with the members of its records in declaration order.  Members
    that are not declared are left out. -/
def arrange : Shape → Json → Json
  | .list item, .arr items => .arr (items.map (fun v => arrange item v))
  | .dict value _, .obj members =>
      .obj (members.map (fun (name, v) => (name, arrange value v)))
  | .record fields _, .obj members =>
      .obj (arrangeFields fields (tableOf members))
  | _, v => v

/-- The declared members, as far as they are there. -/
def arrangeFields :
    List (String × Shape) → Table String Json → List (String × Json)
  | [], _ => []
  | (name, shape) :: rest, known =>
      ((known.get? name).map (fun v => (name, arrange shape v))).toList
        ++ arrangeFields rest known

end

/-- Read a text as a value of a shape. -/
def readAs (shape : Shape) (s : String) : Option Json := do
  settle shape deepest (← Tree.ofText? s)

/-- Read a text as a value. -/
def read (s : String) : Option Json := readAs .any s

end NodeFlow.Json
