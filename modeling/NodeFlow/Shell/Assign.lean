import NodeFlow.Shell.Arithmetic

/-! # Assignments

    A parameter gets a text, an item, or all the items of a list.  What it
    gets may stand behind the value that it has, and its traits may change
    what it gets. -/

namespace NodeFlow.Shell

/-- The value of an expression, which must have one. -/
def calculate (text : String) : Act Int := do
  match ← Arithmetic.evaluate text with
  | .ok n => return n
  | .error e =>
      let s ← session
      match s.dialect with
      | .plain => fault e
      | .extended =>
          if e.isEmpty then giveUp false
          else fault (if s.speaker.isEmpty then e else s.speaker ++ ": " ++ e)

/-- The value of an expression in a change of a parameter. -/
def calculateFor (name text : String) : Act Int := do
  let speaker := (← session).speaker
  change (fun s => { s with speaker := name })
  let n ← calculate text
  change (fun s => { s with speaker := speaker })
  return n

/-- An item of a list that a parameter gets. -/
inductive Entry where
  /-- A text behind the item before. -/
  | next (text : String)
  /-- A text at a place; behind the item that is there, if `adds`. -/
  | placed (key : String) (adds : Bool) (text : String)
  deriving DecidableEq, Repr

/-- What a variable gets for a text; `old` is its text, if the new one stands
    behind it. -/
def givenText (v : Variable) (old : Option String) (text : String) :
    Act String := do
  let s ← session
  if v.whole then
    let n ← calculate text
    match old with
    | none => return toString n
    | some old => return toString (Arithmetic.wrap ((← calculate old) + n))
  else return Variable.recased s.encoding v.recase (old.getD "" ++ text)

/-- Give a variable a text. -/
def assignText (name : String) (adds : Bool) (text : String) : Act Unit := do
  let v ← variableOf name
  if v.fixed then refuseChange (← resolve name)
  else
    let old := if adds then some (v.content.text?.getD "") else none
    let text ← givenText v old text
    match v.content with
    | .list items => setContentOf name (.list (Content.insertItem 0 text items))
    | .table entries =>
        setContentOf name (.table (Content.insertKey "0" text entries))
    | _ => setContentOf name (.text text)

/-- Complain about a place where no item can be. -/
def badPlace {α : Type} (name key : String) : Act α :=
  fault (name ++ "[" ++ key ++ "]: bad array subscript")

/-- A content with an item at a place. -/
def withItem (v : Variable) (name key : String) (adds : Bool)
    (text : String) : Act Content := do
  match v.content with
  | .table entries =>
      if key.isEmpty then badPlace name key
      else
        let old := if adds then some ((entries.lookup key).getD "") else none
        return .table (Content.insertKey key (← givenText v old text) entries)
  | c =>
      if (key.toList.all isSpace) then badPlace name key
      else
        match c.place? (← calculate key) with
        | none => badPlace name key
        | some place =>
            let items := c.asItems
            let old :=
              if adds then some ((items.lookup place).getD "") else none
            return .list
              (Content.insertItem place (← givenText v old text) items)

/-- Give a variable an item. -/
def assignItem (name key : String) (adds : Bool) (text : String) :
    Act Unit := do
  let v ← variableOf name
  if v.fixed then refuseChange (← resolve name)
  else setContentOf name (← withItem v name key adds text)

/-- Entries of a table: a text names the key of the text after it. -/
def pairedUp : List Entry → List Entry
  | .next key :: .next text :: rest => .placed key false text :: pairedUp rest
  | .next key :: rest => .placed key false "" :: pairedUp rest
  | e :: rest => e :: pairedUp rest
  | [] => []

/-- Add entries to a list or a table; `place` is that of the next item of a
    list. -/
def addEntries (name : String) : Variable → Nat → List Entry → Act Variable
  | v, _, [] => return v
  | v, place, .next text :: rest => do
      let text ← givenText v none text
      let c := Content.list (Content.insertItem place text v.content.asItems)
      addEntries name { v with content := c } (place + 1) rest
  | v, place, .placed key adds text :: rest => do
      if v.content.isTable then
        let c ← withItem v name key adds text
        addEntries name { v with content := c } place rest
      else
        let n ← calculate key
        let c ← withItem v name (toString n) adds text
        let place := (v.content.place? n).getD place
        addEntries name { v with content := c } (place + 1) rest

/-- Give a variable all the items of a list. -/
def assignList (name : String) (adds : Bool) (entries : List Entry) :
    Act Unit := do
  let v ← variableOf name
  if v.fixed then refuseChange (← resolve name)
  else
    let start : Content :=
      match v.content, adds with
      | .table entries, true => .table entries
      | .table _, false => .table []
      | c, true => .list c.asItems
      | _, false => .list []
    let place := Content.nextPlace start.asItems
    let entries := if start.isTable then pairedUp entries else entries
    let v ← addEntries name { v with content := start } place entries
    setContentOf name v.content

/-- Do something that may be refused because of a parameter; tells whether it
    was done. -/
def attempt (act : Act Unit) : Act Bool :=
  tryCatch (do
    act
    return true)
    (fun flow => do
      match flow, ← dialect with
      | .abandons, .extended => return false
      | flow, _ => throw flow)

end NodeFlow.Shell
