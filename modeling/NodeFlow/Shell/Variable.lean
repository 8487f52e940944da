import NodeFlow.Shell.Command
import NodeFlow.Table

/-! # Named parameters

    A named parameter holds a text, a list or a table, and has traits: whether
    programs get to know it, whether it may change, and how values are changed
    before it holds them.

    The keys of a table have an order of their own, which follows from a
    number for each of them: keys with one number are kept with the newest one
    first. -/

namespace NodeFlow.Shell

/-- What a parameter holds. -/
inductive Content where
  /-- Nothing. -/
  | nothing
  /-- A text. -/
  | text (s : String)
  /-- Items at places, in ascending order. -/
  | list (items : List (Nat × String))
  /-- Values under keys. -/
  | table (entries : List (String × String))
  deriving DecidableEq, Repr, Inhabited

/-- A named parameter. -/
structure Variable where
  /-- What it holds. -/
  content : Content := .nothing
  /-- Whether programs get to know it. -/
  exported : Bool := false
  /-- Whether it may not change. -/
  fixed : Bool := false
  /-- Whether its values are the results of arithmetic. -/
  whole : Bool := false
  /-- How the letters of its values change. -/
  recase : Option Recase := none
  /-- Whether it stands for the parameter that its value names. -/
  refers : Bool := false
  /-- Whether it has its value for the time of a command. -/
  lent : Bool := false
  /-- Whether it is a list or a table that has been declared only. -/
  bare : Bool := false
  deriving DecidableEq, Repr, Inhabited

namespace Content

/-- The number by which a key has its place among others. -/
def bucket (key : String) : Nat :=
  key.toList.foldl
    (fun h c => ((h * 16777619) % 4294967296).xor c.toNat) 2166136261 % 1024

/-- Put a value under a key. -/
def insertKey (key value : String) :
    List (String × String) → List (String × String)
  | [] => [(key, value)]
  | (k, v) :: rest =>
      if k = key then (key, value) :: rest
      else if bucket k < bucket key then (k, v) :: insertKey key value rest
      else if rest.any (fun e => e.1 == key) then
        (k, v) :: insertKey key value rest
      else (key, value) :: (k, v) :: rest

/-- Put an item at a place. -/
def insertItem (place : Nat) (value : String) :
    List (Nat × String) → List (Nat × String)
  | [] => [(place, value)]
  | (n, v) :: rest =>
      if n = place then (place, value) :: rest
      else if place < n then (place, value) :: (n, v) :: rest
      else (n, v) :: insertItem place value rest

/-- The items of a list of texts. -/
def ofTexts (texts : List String) : Content :=
  .list (texts.zipIdx.map (fun (t, i) => (i, t)))

/-- The text of a parameter without a place: that of the first item of a
    list. -/
def text? : Content → Option String
  | .nothing => none
  | .text s => some s
  | .list items => items.lookup 0
  | .table entries => entries.lookup "0"

/-- All values. -/
def values : Content → List String
  | .nothing => []
  | .text s => [s]
  | .list items => items.map (·.2)
  | .table entries => entries.map (·.2)

/-- All places or keys. -/
def keys : Content → List String
  | .nothing => []
  | .text _ => ["0"]
  | .list items => items.map (fun e => toString e.1)
  | .table entries => entries.map (·.1)

/-- Whether it is a list or a table. -/
def isMany : Content → Bool
  | .list _ | .table _ => true
  | _ => false

/-- Whether it is a table. -/
def isTable : Content → Bool
  | .table _ => true
  | _ => false

/-- The items, if it is seen as a list. -/
def asItems : Content → List (Nat × String)
  | .nothing => []
  | .text s => [(0, s)]
  | .list items => items
  | .table _ => []

/-- The place behind the last item. -/
def nextPlace (items : List (Nat × String)) : Nat :=
  match items.getLast? with
  | some (n, _) => n + 1
  | none => 0

/-- The place that a number means: negative ones count from the end. -/
def place? (c : Content) (n : Int) : Option Nat :=
  if 0 ≤ n then some n.toNat
  else
    let m := (nextPlace c.asItems : Int) + n
    if 0 ≤ m then some m.toNat else none

end Content

namespace Variable

/-- A parameter with a text. -/
def ofText (s : String) (exported : Bool) : Variable :=
  { content := .text s, exported := exported }

/-- The glyphs of a text with letters in another case. -/
def recased (e : Encoding) (how : Option Recase) (s : String) : String :=
  match how with
  | none => s
  | some how =>
      let gs := Octets.glyphs e s.toList
      match how with
      | .upper => String.ofList (gs.flatMap Octets.upper)
      | .lower => String.ofList (gs.flatMap Octets.lower)
      | .other =>
          match gs with
          | [] => ""
          | g :: rest =>
              String.ofList (Octets.upper g ++ rest.flatMap Octets.lower)

/-- The letters of the traits of a parameter. -/
def letters (v : Variable) : String :=
  (match v.content with
    | .list _ => "a"
    | .table _ => "A"
    | _ => "")
    ++ (if v.whole then "i" else "")
    ++ (if v.refers then "n" else "")
    ++ (if v.fixed then "r" else "")
    ++ (if v.exported then "x" else "")
    ++ (match v.recase with
      | some .lower => "l"
      | some .upper => "u"
      | some .other => "c"
      | none => "")

end Variable

/-- Named parameters. -/
abbrev Variables : Type := Table String Variable

end NodeFlow.Shell
