import NodeFlow.Record
import NodeFlow.Timestamp

/-! # Snapshots

    A workflow snapshot is all of a workflow at one moment: the graph in its
    own form, the records, the live node of each record, and the code last
    saved for each record. -/

namespace NodeFlow

/-- The handle of a live node in the graph. -/
abbrev Handle : Type := Nat

/-- Code as it was last saved for one record. -/
structure SavedCode where
  /-- The code. -/
  code : String
  /-- The language that it was saved in. -/
  language : String
  /-- When it was saved. -/
  lastModified : Timestamp
  deriving DecidableEq, Repr, Inhabited

namespace SavedCode

/-- Encode saved code. -/
def toJson (s : SavedCode) : Json :=
  .obj
    [("code", .str s.code), ("language", .str s.language),
      ("lastModified", s.lastModified.toJson)]

/-- Decode saved code. -/
def ofJson (v : Json) : Decoded SavedCode := do
  let fields ← Fields.ofJson "CodeSnapshot" 3 v
  .ok
    { code := ← fields.get 0 "code" Json.toText
      language := ← fields.get 1 "language" Json.toText
      lastModified := ← fields.get 2 "lastModified" Timestamp.ofJson }

/-- What is wanted of saved code in a text. -/
def shape (checked : Bool) : Json.Shape :=
  .record [("code", .any), ("language", .any), ("lastModified", .any)] checked

end SavedCode

/-- All of a workflow at one moment. -/
structure Snapshot where
  /-- The graph, in its own form. -/
  graph : Json := .null
  /-- The records, in the order of their creation. -/
  nodes : List Record := []
  /-- The live node of each record. -/
  links : Table String Handle := Table.empty
  /-- The saved code of each record. -/
  code : Table String SavedCode := Table.empty
  deriving DecidableEq, Repr, Inhabited

namespace Snapshot

/-- The members of an encoded snapshot. -/
def members (s : Snapshot) : List (String × Json) :=
  [("code", .ofTable (s.code.mapValues SavedCode.toJson)),
    ("graph", s.graph),
    ("links", .ofTable (s.links.mapValues Json.ofNat)),
    ("nodes", .arr (s.nodes.map Record.toJson))]

/-- Encode a snapshot. -/
def toJson (s : Snapshot) : Json := .obj s.members

/-- Decode a snapshot from its fields. -/
def ofFields (fields : Fields) : Decoded Snapshot := do
  .ok
    { graph := ← fields.getD 0 "graph" Json.toAny .null
      nodes := ← fields.getD 1 "nodes" (Json.toList Record.ofJson) []
      links := ← fields.getD 2 "links" (Json.toTable Json.toWord) Table.empty
      code :=
        ← fields.getD 3 "code" (Json.toTable SavedCode.ofJson) Table.empty }

/-- Decode a snapshot. -/
def ofJson (v : Json) : Decoded Snapshot := do
  ofFields (← Fields.ofJson "WorkflowSnapshot" 4 v)

end Snapshot
end NodeFlow
