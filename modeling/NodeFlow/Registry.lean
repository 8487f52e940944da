import NodeFlow.Json.Numeral
import NodeFlow.Snapshot
import NodeFlow.Template

/-! # The registry of records

    The registry keeps every record ever made, in order, the live node that
    each is linked to and the code last saved for each.  A record stays when
    its node is removed, marked as removed, and its identifier is not given
    again while it stays. -/

namespace NodeFlow

/-- All records and what they are linked to. -/
structure Registry where
  /-- Every record, by identifier. -/
  records : Table String Record := Table.empty
  /-- The identifiers, oldest first. -/
  order : List String := []
  /-- The record of each live node. -/
  index : Table Handle String := Table.empty
  /-- The live node of each record. -/
  links : Table String Handle := Table.empty
  /-- The code last saved for each record. -/
  code : Table String SavedCode := Table.empty
  /-- The templates, by type. -/
  templates : Table String Template := Table.empty
  /-- The number to try first for the next identifier. -/
  nextId : Nat := 1
  deriving DecidableEq, Repr, Inhabited

namespace Registry

/-! ## Templates -/

/-- Register a template, in place of another one for its type. -/
def addTemplate (r : Registry) (t : Template) : Registry :=
  { r with templates := r.templates.insert t.nodeType t }

/-- Register templates one after the other. -/
def addTemplates (r : Registry) (ts : List Template) : Registry :=
  ts.foldl addTemplate r

/-- The registry with the built-in templates. -/
def builtin : Registry := ({} : Registry).addTemplates Template.builtin

/-! ## Looking up -/

/-- The record with an identifier, removed or not. -/
def record? (r : Registry) (id : String) : Option Record := r.records.get? id

/-- The record that a live node is linked to. -/
def recordOf? (r : Registry) (node : Handle) : Option Record := do
  r.record? (← r.index.get? node)

/-- The live node that a record is linked to. -/
def handleOf? (r : Registry) (id : String) : Option Handle := r.links.get? id

/-- The records that are not removed, oldest first. -/
def live (r : Registry) : List Record :=
  (r.order.filterMap r.record?).filter (fun x => !x.removed)

/-- How many records are not removed. -/
def liveCount (r : Registry) : Nat :=
  (r.records.values.filter (fun x => !x.removed)).length

/-- Whether every record is removed. -/
def isEmpty (r : Registry) : Bool := r.liveCount == 0

/-! ## Identifiers -/

/-- Identifiers are counted in 64 bits. -/
def idLimit : Nat := 2 ^ 64

/-- The number after `n`; after the greatest comes one. -/
def nextNumber (n : Nat) : Nat := if n + 1 < idLimit then n + 1 else 1

/-- The first unused identifier from number `n` on, and the number after
    it.  So many steps suffice as there are records. -/
def freshId (records : Table String Record) : Nat → Nat → String × Nat
  | 0, n => (toString n, nextNumber n)
  | steps + 1, n =>
      if records.contains (toString n) then
        freshId records steps (nextNumber n)
      else (toString n, nextNumber n)

/-- The number that an identifier writes, if it fits 64 bits. -/
def numberOf? (id : String) : Option Nat :=
  let digits :=
    match id.toList with
    | '+' :: rest => rest
    | cs => cs
  if digits.isEmpty || !digits.all Char.isDigit then none
  else
    let n := Numeral.digitsValue digits
    if n < idLimit then some n else none

/-! ## Records and links -/

/-- Link a live node to a record; tells whether the record exists.  The node
    that the record was linked to before is no longer found. -/
def link (r : Registry) (node : Handle) (id : String) : Bool × Registry :=
  if r.records.contains id then
    let index :=
      match r.links.get? id with
      | some old => r.index.erase old
      | none => r.index
    (true,
      { r with
        links := r.links.insert id node
        index := index.insert node id })
  else (false, r)

/-- What a record of a type starts with. -/
def newRecord (r : Registry) (id nodeType : String) : Record :=
  match r.templates.get? nodeType with
  | some t =>
      { id := id
        nodeType := nodeType
        title := t.title
        properties := t.properties
        inputs := t.inputs
        outputs := t.outputs }
  | none => { id := id, nodeType := nodeType, title := nodeType }

/-- Make a record for a live node.  A node that has one keeps it. -/
def add (r : Registry) (node : Handle) (nodeType : String) :
    Record × Registry :=
  match r.recordOf? node with
  | some existing => (existing, r)
  | none =>
      let (id, next) := freshId r.records r.records.size r.nextId
      let record := r.newRecord id nodeType
      let added : Registry :=
        { r with
          nextId := next
          records := r.records.insert id record
          order := r.order ++ [id] }
      (record, (added.link node id).2)

/-- Mark the record of a live node as removed and unlink it; tells whether
    there was one.  The record and its saved code stay. -/
def remove (r : Registry) (node : Handle) : Bool × Registry :=
  match r.index.get? node with
  | none => (false, r)
  | some id =>
      (true,
        { r with
          index := r.index.erase node
          links := r.links.erase id
          records :=
            r.records.modify id (fun x => { x with removed := true }) })

/-! ## Changing one record -/

/-- Change a record; tells whether it exists. -/
def update (r : Registry) (id : String) (f : Record → Record) :
    Bool × Registry :=
  if r.records.contains id then
    (true, { r with records := r.records.modify id f })
  else (false, r)

/-- Store properties of a record over those with the same keys. -/
def updateProperties (r : Registry) (id : String)
    (more : Table String Json) : Bool × Registry :=
  r.update id (fun x => x.withProperties more)

/-- The record with another title and other static ports.  Dynamic inputs
    that would have the name of a static one are dropped. -/
def restructured (title : String) (inputs outputs : List Port)
    (x : Record) : Record :=
  { x with
    title := title
    inputs := inputs
    outputs := outputs
    dynamicInputs :=
      x.dynamicInputs.filter
        (fun d => !inputs.any (fun p => p.name == d.name)) }

/-- Give a record another title and other static ports. -/
def setStructure (r : Registry) (id title : String)
    (inputs outputs : List Port) : Bool × Registry :=
  r.update id (restructured title inputs outputs)

/-- Add a dynamic input, unless an input has that name. -/
def addDynamicInput (r : Registry) (id name type : String) :
    Bool × Registry :=
  match r.record? id with
  | none => (false, r)
  | some x =>
      if x.hasInput name then (false, r)
      else
        r.update id (fun x =>
          { x with dynamicInputs := x.dynamicInputs ++ [⟨name, type, none⟩] })

/-- Remove the dynamic inputs of a name; tells whether there were any. -/
def removeDynamicInput (r : Registry) (id name : String) :
    Bool × Registry :=
  match r.record? id with
  | none => (false, r)
  | some x =>
      let kept := x.dynamicInputs.filter (fun p => p.name != name)
      (kept.length != x.dynamicInputs.length,
        (r.update id (fun x => { x with dynamicInputs := kept })).2)

/-! ## Saved code -/

/-- Save the code of a record; tells whether the record exists. -/
def saveCode (r : Registry) (id code language : String) (now : Timestamp) :
    Bool × Registry :=
  if r.records.contains id then
    (true, { r with code := r.code.insert id ⟨code, language, now⟩ })
  else (false, r)

/-! ## All at once -/

/-- Forget everything but the templates. -/
def clear (r : Registry) : Registry := { templates := r.templates }

/-- Take in a record, unless its identifier is taken.  New identifiers come
    after every number seen. -/
def loadRecord (r : Registry) (x : Record) : Registry :=
  if r.records.contains x.id then r
  else
    let next :=
      match numberOf? x.id with
      | some n => max r.nextId (min (n + 1) (idLimit - 1))
      | none => r.nextId
    { r with
      nextId := next
      order := r.order ++ [x.id]
      records := r.records.insert x.id x }

/-- Replace all records and saved code.  No record is linked then. -/
def load (r : Registry) (records : List Record)
    (code : Table String SavedCode) : Registry :=
  { records.foldl loadRecord r.clear with code := code }

end Registry
end NodeFlow
