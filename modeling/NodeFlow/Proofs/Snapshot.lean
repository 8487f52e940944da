import NodeFlow.Host.WorkflowFile
import NodeFlow.Proofs.Files
import NodeFlow.Proofs.Graph.Blob
import NodeFlow.Proofs.Record
import NodeFlow.Proofs.Timestamp.Text

/-! # Reading a written snapshot

    Every part of a workflow is read back from its encoded form: records whose
    ports keep their options, saved code with the time of saving, tables of
    these, and with them whole snapshots and workflow files
    (`WorkflowFile.ofJson_toJson`). -/

namespace NodeFlow

theorem Timestamp.ofJson_toJson {t : Timestamp} (h : t.Valid) :
    Timestamp.ofJson t.toJson = .ok t := by
  simp [Timestamp.ofJson, Timestamp.toJson, ofText?_text h]

/-- Tables are read value by value. -/
theorem Json.toTable_eq {α : Type} (item : Json → Decoded α)
    (t : Table String Json) :
    toTable item (.ofTable t)
      = t.entries.mapM (fun e => (item e.2).map (fun a => (e.1, a))) >>=
        fun pairs => .ok (Table.ofList pairs) := by
  simp only [toTable, ofTable, tableOf_entries]

/-- A table is read where it was written if its values are. -/
theorem Json.toTable_ofTable {α : Type} {item : Json → Decoded α}
    {encode : α → Json} {t : Table String α}
    (h : ∀ k a, t.get? k = some a → item (encode a) = .ok a) :
    toTable item (.ofTable (t.mapValues encode)) = .ok t := by
  have hentries : (t.mapValues encode).entries
      = t.entries.map (fun e => (e.1, encode e.2)) := rfl
  have hread : (t.entries.map (fun e => (e.1, encode e.2))).mapM
      (fun e => (item e.2).map (fun a => (e.1, a))) = .ok t.entries := by
    rw [List.mapM_map, mapM_eq_ok (g := id) (fun e he => ?_), List.map_id]
    have hitem := h e.1 e.2 ((Table.mem_entries_iff t e.1 e.2).mp he)
    simp [hitem]
  rw [toTable_eq, hentries, hread, ok_bind, Table.ofList_entries]

theorem Json.toTable_toAny (t : Table String Json) :
    toTable toAny (.ofTable t) = .ok t := by
  have hid : t.mapValues id = t := Table.ext_get? (fun k => by simp)
  have h : toTable toAny (.ofTable (t.mapValues id)) = .ok t :=
    toTable_ofTable (fun _ _ _ => rfl)
  rwa [hid] at h

/-- The record that is read where this one was written. -/
def Record.reread (x : Record) : Record :=
  { x with
    inputs := x.inputs.map Port.reread
    outputs := x.outputs.map Port.reread
    dynamicInputs := x.dynamicInputs.map Port.reread }

theorem Record.Ports.reread {x : Record} (h : x.Ports Port.Kept) :
    x.reread = x := by
  rw [Record.reread, Port.map_reread h.inputs, Port.map_reread h.outputs,
    Port.map_reread h.dynamic]

/-- Ports are read where they were written. -/
theorem Port.toList_ofJson (l : List Port) :
    Json.toList Port.ofJson (.arr (l.map Port.toJson))
      = .ok (l.map Port.reread) :=
  Json.toList_arr_map (fun p _ => Port.ofJson_toJson p)

theorem Record.ofJson_toJson (x : Record) :
    Record.ofJson x.toJson = .ok x.reread := by
  obtain ⟨id, nodeType, title, properties, ins, outs, dynamic, removed⟩ := x
  unfold Record.ofJson Record.toJson
  cases removed <;>
    simp [Fields.get, Fields.getD, Fields.find?_named, Table.lookupEntry,
      Port.toList_ofJson, Json.toTable_toAny, Json.toBool, Record.reread]

theorem SavedCode.ofJson_toJson {s : SavedCode} (h : s.lastModified.Valid) :
    SavedCode.ofJson s.toJson = .ok s := by
  have htime := Timestamp.ofJson_toJson h
  simp [SavedCode.ofJson, SavedCode.toJson, Fields.get, Fields.find?_named,
    Table.lookupEntry, htime]

namespace Snapshot

/-- Whether all handles of a snapshot have 64 bits and there are all its
    times. -/
structure Bounded (s : Snapshot) : Prop where
  /-- The nodes of the records. -/
  handles : ∀ id v, s.links.get? id = some v → v < 2 ^ 64
  /-- The times at which code was saved. -/
  times : ∀ id c, s.code.get? id = some c → c.lastModified.Valid

/-- The snapshot that is read where this one was written. -/
def reread (s : Snapshot) : Snapshot :=
  { s with nodes := s.nodes.map Record.reread }

/-- The names of the members of a snapshot. -/
def names : List String := ["graph", "nodes", "links", "code"]

/-- A snapshot is read from any members among which its own are. -/
theorem Bounded.ofFields_named {s : Snapshot} (h : s.Bounded)
    {members : List (String × Json)}
    (hmembers : Json.Alike names s.members members) :
    ofFields (.named (Json.tableOf members)) = .ok s.reread := by
  have hnodes := Json.toList_arr_map (l := s.nodes)
    (fun x _ => Record.ofJson_toJson x)
  have hlinks := Json.toTable_ofTable
    (fun id v hv => Json.toWord_ofNat (h.handles id v hv))
  have hcode := Json.toTable_ofTable
    (fun id c hc => SavedCode.ofJson_toJson (h.times id c hc))
  simp only [Json.Alike, names, List.forall_mem_cons] at hmembers
  unfold ofFields
  simp [Fields.getD, Fields.find?, Fields.given?, hmembers, Snapshot.members,
    Json.get?_tableOf, Table.lookupEntry, hnodes, hlinks, hcode, Json.toAny,
    reread]

theorem Bounded.ofJson_toJson {s : Snapshot} (h : s.Bounded) :
    ofJson s.toJson = .ok s.reread :=
  h.ofFields_named (fun _ _ => rfl)

end Snapshot

/-- Whether every part of a snapshot is something that can be written and
    read: options of ports are no explicit `null`, handles have 64 bits, and
    there is every time. -/
structure Snapshot.Readable (s : Snapshot) : Prop where
  /-- The ports of the records. -/
  ports : ∀ x ∈ s.nodes, x.Ports Port.Kept
  /-- The nodes of the records. -/
  handles : ∀ id v, s.links.get? id = some v → v < 2 ^ 64
  /-- The times at which code was saved. -/
  times : ∀ id c, s.code.get? id = some c → c.lastModified.Valid

theorem Snapshot.Readable.bounded {s : Snapshot} (h : s.Readable) :
    s.Bounded :=
  ⟨h.handles, h.times⟩

theorem Snapshot.Readable.reread {s : Snapshot} (h : s.Readable) :
    s.reread = s := by
  have hnodes : s.nodes.map Record.reread = s.nodes :=
    (List.map_congr_left (fun x hx => (h.ports x hx).reread)).trans
      (List.map_id _)
  rw [Snapshot.reread, hnodes]

namespace WorkflowFile

/-- A snapshot is read where it was written, with the version of the
    format. -/
theorem ofJson_toJson {s : Snapshot} (h : s.Readable) :
    ofJson (toJson s) = .ok (WorkflowFileError.newest, s) := by
  have hversion : (Json.ofNat WorkflowFileError.newest).toHalfWord
      = .ok WorkflowFileError.newest := rfl
  have hsnapshot := h.bounded.ofFields_named
    (Json.alike_append [] [("version", .ofNat WorkflowFileError.newest)]
      (by simp) (by simp [Snapshot.names]))
  rw [h.reread, List.nil_append] at hsnapshot
  unfold ofJson toJson
  simp [Fields.getD, Fields.find?_named, Table.lookupEntry, hversion, hsnapshot]

/-- A snapshot is read from a text that holds it. -/
theorem ofText_of_readAs {s : Snapshot} (h : s.Readable) {text : String}
    (htext : Json.readAs shape text = some (toJson s)) (path : String) :
    ofText path text = .ok s := by
  unfold ofText ofText?
  simp [htext, ofJson_toJson h, Except.toOption]

/-! ## Files -/

/-- Whether a path is one that something can be written to, once its directory
    has been made. -/
def Takes (t : FileTree) (path : String) : Prop :=
  ∃ t' t'' text,
    (makeParent path : StateM FileTree (Except WorkflowFileError Unit)).run t
        = (.ok (), t')
      ∧ t'.write path text = .ok t''

/-- A file can be written in a directory that can be made. -/
theorem takes_of_makeDirs {t t' t'' : FileTree} {path dir text : String}
    (hparent : FilePath.parent? path = some dir) (hdir : dir ≠ "")
    (hmake : t.makeDirs dir = .ok t') (hwrite : t'.write path text = .ok t'') :
    Takes t path := by
  refine ⟨t', t'', text, ?_, hwrite⟩
  unfold makeParent
  rw [hparent]
  split
  · contradiction
  · rename_i heq
    cases heq
    exact absurd rfl hdir
  · rename_i heq
    cases heq
    rw [StateT.run_bind, FileTree.run_makeDirs hmake]
    rfl

/-- A snapshot is read from the file that it was written to. -/
theorem load_of_save {s : Snapshot} (h : s.Readable)
    (htext : Json.readAs shape (text s) = some (toJson s)) {t : FileTree}
    {path : String} (hpath : Takes t path) :
    ∃ t', (save path s : StateM FileTree _).run t = (.ok (), t')
      ∧ (load path : StateM FileTree _).run t' = (.ok s, t') := by
  obtain ⟨t', t'', old, hparent, hwrite⟩ := hpath
  obtain ⟨written, hwritten, hread⟩ :=
    FileTree.read_of_write hwrite (WorkflowFile.text s)
  refine ⟨written, ?_, ?_⟩
  · unfold save
    rw [StateT.run_bind, hparent]
    show StateT.run (do
      let outcome ← Files.write path (WorkflowFile.text s)
      pure (attempt path outcome)) t' = _
    rw [StateT.run_bind, FileTree.run_write hwritten]
    rfl
  · unfold load
    rw [StateT.run_bind, FileTree.run_read, hread, pure_bind,
      StateT.run_pure, attempt, ok_bind, ofText_of_readAs h htext]
    rfl

end WorkflowFile
end NodeFlow
