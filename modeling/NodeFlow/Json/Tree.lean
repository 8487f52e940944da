import NodeFlow.Json.Token

/-! # Syntax trees

    A tree holds a JSON text as it is written: members in their order, with
    repetitions, numerals unread, nesting unbounded.  Trees are built from
    tokens with a stack of open containers, so that building one needs no
    bound on the depth. -/

namespace NodeFlow.Json

/-- A JSON text as it is written. -/
inductive Tree where
  /-- `null`, `true` or `false` -/
  | literal (v : Option Bool)
  /-- A numeral. -/
  | numeral (n : Numeral)
  /-- A quoted text; nothing when it is not a text of characters. -/
  | text (s : Option String)
  /-- A list. -/
  | list (items : List Tree)
  /-- An object: every member as written. -/
  | object (members : List (Option String × Tree))
  deriving Repr, Inhabited

/-- A container that is still open, its content so far last first. -/
inductive Frame where
  /-- A list. -/
  | list (done : List Tree)
  /-- An object, and the name of the member whose value is due. -/
  | object (done : List (Option String × Tree)) (name : Option String)
  deriving Repr

/-- What may come next. -/
inductive Due where
  /-- A value. -/
  | value
  /-- A value, or the end of the list just opened. -/
  | valueOrEnd
  /-- A name, or the end of the object just opened. -/
  | nameOrEnd (done : List (Option String × Tree))
  /-- A name. -/
  | name (done : List (Option String × Tree))
  /-- The colon after a name. -/
  | colon
  /-- A comma, or the end of the innermost container. -/
  | more
  /-- Nothing: the value is complete. -/
  | nothing (v : Tree)
  deriving Repr

/-- Building stands at what is due, inside the open containers. -/
structure Build where
  /-- What may come next. -/
  due : Due
  /-- The open containers, innermost first. -/
  frames : List Frame
  deriving Repr

namespace Build

/-- Before the first token. -/
def start : Build := ⟨.value, []⟩

/-- A value is complete. -/
def complete (v : Tree) : List Frame → Build
  | [] => ⟨.nothing v, []⟩
  | .list done :: outer => ⟨.more, .list (v :: done) :: outer⟩
  | .object done name :: outer =>
      ⟨.more, .object ((name, v) :: done) none :: outer⟩

/-- A value starts. -/
def value (t : Token) (frames : List Frame) : Option Build :=
  match t with
  | .literal v => some (complete (.literal v) frames)
  | .numeral n => some (complete (.numeral n) frames)
  | .text s => some (complete (.text s) frames)
  | .openList => some ⟨.valueOrEnd, .list [] :: frames⟩
  | .openObject => some ⟨.nameOrEnd [], frames⟩
  | _ => none

/-- A name is read. -/
def name (done : List (Option String × Tree)) (t : Token)
    (frames : List Frame) : Option Build :=
  match t with
  | .text s => some ⟨.colon, .object done s :: frames⟩
  | _ => none

/-- One token. -/
def step (b : Build) (t : Token) : Option Build :=
  match b.due, b.frames with
  | .value, frames => value t frames
  | .valueOrEnd, .list done :: outer =>
      if t = .closeList then some (complete (.list done.reverse) outer)
      else value t (.list done :: outer)
  | .nameOrEnd done, frames =>
      if t = .closeObject then some (complete (.object done.reverse) frames)
      else name done t frames
  | .name done, frames => name done t frames
  | .colon, frames => if t = .colon then some ⟨.value, frames⟩ else none
  | .more, .list done :: outer =>
      if t = .comma then some ⟨.value, .list done :: outer⟩
      else if t = .closeList then some (complete (.list done.reverse) outer)
      else none
  | .more, .object done _ :: outer =>
      if t = .comma then some ⟨.name done, outer⟩
      else if t = .closeObject then
        some (complete (.object done.reverse) outer)
      else none
  | _, _ => none

/-- All tokens in turn. -/
def run (b : Build) : List Token → Option Build
  | [] => some b
  | t :: rest =>
      match b.step t with
      | some b' => b'.run rest
      | none => none

end Build

/-- The tree of a text; `none` when it is not the text of one value. -/
def Tree.ofText? (s : String) : Option Tree := do
  let b ← Build.start.run (← tokens? s)
  match b.due with
  | .nothing v => some v
  | _ => none

end NodeFlow.Json
