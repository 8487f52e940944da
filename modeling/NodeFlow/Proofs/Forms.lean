import NodeFlow.Backend.Envelope
import NodeFlow.Backend.ShellCall
import NodeFlow.Config
import NodeFlow.Event
import NodeFlow.Proofs.Graph.Legible
import NodeFlow.Proofs.Snapshot
import NodeFlow.Template

/-! # JSON forms

    Whatever is kept in JSON is read back as it was written; only an optional
    value that is an explicit `null` is read as none.  What has been read is
    such that it is read again unchanged: its numbers are within their bounds,
    its times are times that there are, and none of its optional values is
    `null`.  Members that a reader does not know are passed over.

    For each type this is one `Form`, put together by `Form.of_read` from two
    lemmas: what is read where a value was written, and what is known of a
    value that has been read. -/

namespace NodeFlow

/-- How values of a type are kept in JSON: they are encoded as objects, a
    reader knows the members with the given names, and a value that `fits` is
    read where it was written, as what it has `settled` to. -/
structure Form {α : Type} (encode : α → Json) (decode : Json → Decoded α)
    (names : α → List String) (fits : α → Prop) (settled : α → α) : Prop where
  /-- A value that fits is read where it was written. -/
  back : ∀ x, fits x → decode (encode x) = .ok (settled x)
  /-- A value that has been read is written and read as it is. -/
  again : ∀ v x, decode v = .ok x → decode (encode x) = .ok x
  /-- More members under other names make no difference. -/
  others : ∀ x, ∃ own, encode x = .obj own ∧
    ∀ members, Json.Alike (names x) own members →
      decode (.obj members) = decode (.obj own)

/-- What has been read fits, and has settled already. -/
theorem Form.of_read {α : Type} {encode : α → Json} {decode : Json → Decoded α}
    {names : α → List String} {fits : α → Prop} {settled : α → α}
    (back : ∀ x, fits x → decode (encode x) = .ok (settled x))
    (read : ∀ v x, decode v = .ok x → fits x ∧ settled x = x)
    (others : ∀ x, ∃ own, encode x = .obj own ∧
      ∀ members, Json.Alike (names x) own members →
        decode (.obj members) = decode (.obj own)) :
    Form encode decode names fits settled where
  back := back
  again v x h := by
    obtain ⟨hfits, hsettled⟩ := read v x h
    rw [back x hfits, hsettled]
  others := others

/-! ## Ports, records and templates -/

/-- A port is read where it was written, except that options that are null are
    gone. -/
theorem Port.form :
    Form Port.toJson Port.ofJson (fun _ => ["name", "type", "extra"])
      (fun _ => True) Port.reread :=
  .of_read (fun p _ => ofJson_toJson p)
    (fun _ _ h => ⟨trivial, (kept_of_ofJson h).reread⟩)
    (fun p => ⟨_, rfl, fun members h => by
      simp only [Json.Alike, List.forall_mem_cons] at h
      simp only [ofJson, Fields.ofJson_obj, ok_bind, Fields.getOption_named,
        Fields.require_named, Fields.find?, Fields.given?, h]⟩)

/-- Ports of a record that has been read have no options that are null: these
    count as options that are missing. -/
theorem Record.ports_of_ofJson {v : Json} {x : Record}
    (h : Record.ofJson v = .ok x) : x.Ports Port.Kept := by
  unfold Record.ofJson at h
  simp only [bind_eq_ok_iff] at h
  obtain ⟨_, -, _, -, _, -, _, -, _, -, ins, hin, outs, hout, dynamic, hdynamic,
    _, -, h⟩ := h
  cases h
  have hkept := fun v l (h : Json.toList Port.ofJson v = .ok l) =>
    Port.kept_of_toList h
  exact
    { inputs := Fields.of_getD (by simp) hkept hin
      dynamic := Fields.of_getD (by simp) hkept hdynamic
      outputs := Fields.of_getD (by simp) hkept hout }

/-- A record is read where it was written, with its ports reread. -/
theorem Record.form :
    Form Record.toJson Record.ofJson
      (fun _ => ["id", "nodeType", "title", "properties", "inputs", "outputs",
        "dynamicInputs", "removed"])
      (fun _ => True) Record.reread :=
  .of_read (fun x _ => ofJson_toJson x)
    (fun _ _ h => ⟨trivial, (ports_of_ofJson h).reread⟩)
    (fun x => ⟨_, rfl, fun members h => by
      simp only [Json.Alike, List.forall_mem_cons] at h
      simp only [ofJson, Fields.ofJson_obj, ok_bind, Fields.get, Fields.getD,
        Fields.require_named, Fields.find?, Fields.given?, h]⟩)

namespace Template

/-- The template that is read where this one was written. -/
def reread (t : Template) : Template :=
  { t with
    inputs := t.inputs.map Port.reread
    outputs := t.outputs.map Port.reread }

/-- A template is read where it was written, with its ports reread. -/
theorem ofJson_toJson (t : Template) : ofJson t.toJson = .ok t.reread := by
  unfold ofJson toJson
  simp [Fields.get, Fields.getD, Fields.getOption_named, Fields.find?_named,
    Table.lookupEntry, Port.toList_ofJson, reread]

/-- A template that has been read stays as it is when its ports are reread. -/
theorem reread_of_ofJson {v : Json} {t : Template} (h : ofJson v = .ok t) :
    t.reread = t := by
  unfold ofJson at h
  simp only [bind_eq_ok_iff] at h
  obtain ⟨_, -, _, -, _, -, _, -, _, -, _, -, ins, hin, outs, hout, h⟩ := h
  cases h
  obtain ⟨_, hin⟩ := Fields.exists_of_get hin
  obtain ⟨_, hout⟩ := Fields.exists_of_get hout
  simp only [reread, Port.map_reread (Port.kept_of_toList hin),
    Port.map_reread (Port.kept_of_toList hout)]

/-- Templates have an encoded form. -/
theorem form :
    Form toJson ofJson
      (fun _ => ["nodeType", "title", "description", "codeType", "code",
        "inputs", "outputs"])
      (fun _ => True) reread :=
  .of_read (fun t _ => ofJson_toJson t)
    (fun _ _ h => ⟨trivial, reread_of_ofJson h⟩)
    (fun t => ⟨_, rfl, fun members h => by
      simp only [Json.Alike, List.forall_mem_cons] at h
      simp only [ofJson, Fields.ofJson_obj, ok_bind, Fields.get, Fields.getD,
        Fields.getOption_named, Fields.require_named, Fields.find?,
        Fields.given?, h]⟩)

end Template

/-! ## Snapshots -/

/-- A time that has been read is one that can be written. -/
theorem Timestamp.valid_of_ofJson {v : Json} {t : Timestamp}
    (h : Timestamp.ofJson v = .ok t) : t.Valid := by
  obtain ⟨s, -, h⟩ := bind_eq_ok_iff.mp h
  split at h
  · rename_i hs
    cases h
    exact valid_of_ofText? hs
  · cases h

/-- Code that has been read was saved at a time that can be written. -/
theorem SavedCode.valid_of_ofJson {v : Json} {c : SavedCode}
    (h : SavedCode.ofJson v = .ok c) : c.lastModified.Valid := by
  unfold SavedCode.ofJson at h
  simp only [bind_eq_ok_iff] at h
  obtain ⟨_, -, _, -, _, -, time, htime, h⟩ := h
  cases h
  obtain ⟨_, htime⟩ := Fields.exists_of_get htime
  exact Timestamp.valid_of_ofJson htime

/-- Saved code is read where it was written if its time can be written. -/
theorem SavedCode.form :
    Form SavedCode.toJson SavedCode.ofJson
      (fun _ => ["code", "language", "lastModified"])
      (fun c => c.lastModified.Valid) id :=
  .of_read (fun _ h => ofJson_toJson h)
    (fun _ _ h => ⟨valid_of_ofJson h, rfl⟩)
    (fun c => ⟨_, rfl, fun members h => by
      simp only [Json.Alike, List.forall_mem_cons] at h
      simp only [ofJson, Fields.ofJson_obj, ok_bind, Fields.get,
        Fields.require_named, Fields.find?, Fields.given?, h]⟩)

namespace Snapshot

/-- Every part of a snapshot that has been read can be written again. -/
theorem readable_of_ofJson {v : Json} {s : Snapshot} (h : ofJson v = .ok s) :
    s.Readable := by
  unfold ofJson ofFields at h
  simp only [bind_eq_ok_iff] at h
  obtain ⟨_, -, _, -, nodes, hnodes, links, hlinks, code, hcode, h⟩ := h
  cases h
  refine ⟨?_, ?_, ?_⟩
  · refine Fields.of_getD (P := fun l => ∀ x ∈ l, x.Ports Port.Kept) (by simp)
      (fun u l hl x hx => ?_) hnodes
    obtain ⟨_, hx⟩ := Json.exists_of_toList hl x hx
    exact Record.ports_of_ofJson hx
  · refine Fields.of_getD (P := fun t => ∀ id v, t.get? id = some v → v < _)
      (by simp) (fun u t ht id v hv => ?_) hlinks
    obtain ⟨_, hv⟩ := Json.exists_of_toTable ht id v hv
    exact Json.toWord_lt hv
  · refine Fields.of_getD
      (P := fun t => ∀ id c, t.get? id = some c → c.lastModified.Valid)
      (by simp) (fun u t ht id c hc => ?_) hcode
    obtain ⟨_, hc⟩ := Json.exists_of_toTable ht id c hc
    exact SavedCode.valid_of_ofJson hc

/-- A snapshot with times that can be written and handles of 64 bits is read
    where it was written, with the ports of its records reread. -/
theorem form :
    Form toJson ofJson (fun _ => names) Bounded reread :=
  .of_read (fun _ h => h.ofJson_toJson)
    (fun _ _ h => ⟨(readable_of_ofJson h).bounded, (readable_of_ofJson h).reread⟩)
    (fun s => ⟨_, rfl, fun members h => by
      simp only [Json.Alike, names, List.forall_mem_cons] at h
      simp only [ofJson, ofFields, Fields.ofJson_obj, ok_bind, Fields.getD,
        Fields.find?, Fields.given?, h]⟩)

end Snapshot

/-! ## Graphs -/

namespace Graph

/-- A graph that has been read has handles and places of 64 bits, holds no
    values and has nothing left to lose. -/
theorem read_of_stateOfJson {v : Json} {g : Graph}
    (h : stateOfJson v = .ok g) : g.Bounded ∧ g.reread = g := by
  obtain ⟨⟨fields, -, hlast, hnodes, hlinks⟩, hdirty⟩ :=
    stateOfJson_eq_ok_iff.mp h
  obtain ⟨_, hlast⟩ := Fields.exists_of_find? hlast
  obtain ⟨_, hnodes⟩ := Fields.exists_of_find? hnodes
  obtain ⟨_, hlinks⟩ := Fields.exists_of_find? hlinks
  have hread := nodes_of_nodesOfJson hnodes
  refine ⟨⟨fun u n hn => ?_, Json.toWord_lt hlast, fun l hl => ?_⟩, ?_⟩
  · obtain ⟨hlt, hhandle, -⟩ := hread u n hn
    exact ⟨hlt, hhandle⟩
  · obtain ⟨_, hl⟩ := Json.exists_of_toList hlinks l hl
    exact Link.bounded_of_ofJson hl
  · rw [reread, mapValues_reread (fun u n hn => (hread u n hn).2.2), ← hdirty]

/-- A graph with handles and places of 64 bits is read where it was written,
    without its values and marks. -/
theorem form :
    Form toJson stateOfJson (fun _ => ["nextHandle", "nodes", "links"]) Bounded
      reread :=
  .of_read (fun _ h => h.stateOfJson_toJson)
    (fun _ _ h => read_of_stateOfJson h)
    (fun g => ⟨_, rfl, fun members h => by
      simp only [Json.Alike, List.forall_mem_cons] at h
      simp only [stateOfJson, Fields.ofJson_obj, ok_bind,
        Fields.require_named, Fields.find?, Fields.given?, h]⟩)

end Graph

/-! ## What programs leave behind -/

namespace Envelope

/-- The envelope that is read where this one was written. -/
def reread (e : Envelope) : Envelope :=
  { e with value := e.value.filter (· ≠ .null) }

/-- An envelope is read where it was written, except that a null value is
    none. -/
theorem ofJson_toJson (e : Envelope) : ofJson e.toJson = .ok e.reread := by
  have hvalue := Json.toOption_toAny e.value
  unfold ofJson toJson
  simp [Fields.get, Fields.getOption_named, Fields.find?_named,
    Table.lookupEntry, Json.toBool, hvalue, reread]

/-- An envelope that has been read has no null value. -/
theorem reread_of_ofJson {v : Json} {e : Envelope} (h : ofJson v = .ok e) :
    e.reread = e := by
  unfold ofJson at h
  simp only [bind_eq_ok_iff] at h
  obtain ⟨_, -, _, -, value, hvalue, _, -, h⟩ := h
  cases h
  have hne := Fields.getOption_ne_null hvalue
  cases value with
  | none => rfl
  | some u =>
      have hu : u ≠ .null := fun heq => hne (congrArg some heq)
      simp [reread, Option.filter, hu]

/-- Envelopes have an encoded form. -/
theorem form :
    Form toJson ofJson (fun _ => ["ok", "value", "detail"]) (fun _ => True)
      reread :=
  .of_read (fun e _ => ofJson_toJson e)
    (fun _ _ h => ⟨trivial, reread_of_ofJson h⟩)
    (fun e => ⟨_, rfl, fun members h => by
      simp only [Json.Alike, List.forall_mem_cons] at h
      simp only [ofJson, Fields.ofJson_obj, ok_bind, Fields.get,
        Fields.getOption_named, Fields.require_named, Fields.find?,
        Fields.given?, h]⟩)

end Envelope

namespace ShellOutput

/-- Whether the numbers of an output have 32 bits. -/
structure Bounded (o : ShellOutput) : Prop where
  /-- The exit code. -/
  code : ∀ n ∈ o.code, -2 ^ 31 ≤ n ∧ n < 2 ^ 31
  /-- The signal. -/
  signal : ∀ n ∈ o.signal, -2 ^ 31 ≤ n ∧ n < 2 ^ 31

/-- An output with codes of 32 bits is read where it was written. -/
theorem Bounded.ofJson_toJson {o : ShellOutput} (h : o.Bounded) :
    ofJson o.toJson = .ok o := by
  have hcode := Json.toOption_ofInt h.code
  have hsignal := Json.toOption_ofInt h.signal
  unfold ofJson toJson
  simp [Fields.get, Fields.getOption_named, Fields.find?_named,
    Table.lookupEntry, hcode, hsignal]

/-- Codes that have been read have 32 bits. -/
theorem bounded_of_ofJson {v : Json} {o : ShellOutput} (h : ofJson v = .ok o) :
    o.Bounded := by
  unfold ofJson at h
  simp only [bind_eq_ok_iff] at h
  obtain ⟨fields, -, code, hcode, signal, hsignal, _, -, _, -, h⟩ := h
  cases h
  have hread : ∀ {position name trails} {found : Option Int},
      fields.getOption position name Json.toSigned trails = .ok found →
        ∀ n ∈ found, -2 ^ 31 ≤ n ∧ n < 2 ^ 31 := by
    rintro position name trails _ hfound n rfl
    obtain ⟨_, hn⟩ := Fields.exists_of_getOption hfound
    exact Json.mem_of_toWhole (Json.of_toOption hn).2
  exact ⟨hread hcode, hread hsignal⟩

/-- Outputs of programs have an encoded form, which keeps everything. -/
theorem form :
    Form toJson ofJson (fun _ => ["code", "signal", "stdout", "stderr"])
      Bounded id :=
  .of_read (fun _ h => h.ofJson_toJson)
    (fun _ _ h => ⟨bounded_of_ofJson h, rfl⟩)
    (fun o => ⟨_, rfl, fun members h => by
      simp only [Json.Alike, List.forall_mem_cons] at h
      simp only [ofJson, Fields.ofJson_obj, ok_bind, Fields.get,
        Fields.getOption_named, Fields.require_named, Fields.find?,
        Fields.given?, h]⟩)

end ShellOutput

/-! ## Settings -/

/-- A number has 64 bits if it has been read, or if it stands for one that is
    missing and has them. -/
theorem Fields.getD_toWord_lt {fields : Fields} {position default n : Nat}
    {name : String} (hdefault : default < 2 ^ 64)
    (h : fields.getD position name Json.toWord default = .ok n) : n < 2 ^ 64 :=
  of_getD (P := (· < 2 ^ 64)) hdefault (fun _ _ h => Json.toWord_lt h) h

/-- A policy is read from its name. -/
theorem OverlapPolicy.ofJson_name (p : OverlapPolicy) :
    OverlapPolicy.ofJson (.str p.name) = .ok p := by
  cases p <;> rfl

/-- The command of an interpreter is read where it was written. -/
theorem InterpreterCommand.ofJson_toJson (c : InterpreterCommand) :
    InterpreterCommand.ofJson c.toJson = .ok c := by
  have hargs : Json.toList Json.toText (.arr (c.args.map Json.str))
      = .ok (c.args.map id) := Json.toList_arr_map (fun _ _ => rfl)
  rw [List.map_id] at hargs
  unfold InterpreterCommand.ofJson InterpreterCommand.toJson
  simp [Fields.get, Fields.getD, Fields.find?_named, Table.lookupEntry, hargs]

namespace EngineConfig

/-- Whether the numbers of settings have 64 bits. -/
structure Bounded (c : EngineConfig) : Prop where
  /-- The time that a script may take. -/
  scriptTimeout : c.scriptTimeout < 2 ^ 64
  /-- The rounds that it may take. -/
  scriptLoopLimit : c.scriptLoopLimit < 2 ^ 64
  /-- The time that a program may take. -/
  bridgeTimeout : c.bridgeTimeout < 2 ^ 64

/-- Settings of the engine with numbers of 64 bits are read where they were
    written. -/
theorem Bounded.ofJson_toJson {c : EngineConfig} (h : c.Bounded) :
    ofJson c.toJson = .ok c := by
  have hinterpreters := Json.toTable_ofTable (t := c.interpreters)
    (fun _ i _ => i.ofJson_toJson)
  unfold ofJson toJson
  simp [Fields.getD, Fields.getOption_named, Fields.find?_named,
    Table.lookupEntry, Json.toWord_ofNat h.scriptTimeout,
    Json.toWord_ofNat h.scriptLoopLimit, Json.toWord_ofNat h.bridgeTimeout,
    OverlapPolicy.ofJson_name, hinterpreters]

/-- The settings that nothing was said about are within the bounds too. -/
theorem bounded_of_ofJson {v : Json} {c : EngineConfig}
    (h : ofJson v = .ok c) : c.Bounded := by
  unfold ofJson at h
  simp only [bind_eq_ok_iff] at h
  obtain ⟨_, -, time, htime, rounds, hrounds, bridge, hbridge, _, -, _, -, _, -,
    h⟩ := h
  cases h
  exact
    { scriptTimeout := Fields.getD_toWord_lt (by decide) htime
      scriptLoopLimit := Fields.getD_toWord_lt (by decide) hrounds
      bridgeTimeout := Fields.getD_toWord_lt (by decide) hbridge }

/-- Settings of the engine have an encoded form, which keeps everything. -/
theorem form :
    Form toJson ofJson
      (fun _ => ["script_timeout_ms", "script_loop_limit", "bridge_timeout_ms",
        "overlap_policy", "shell_program", "interpreters"])
      Bounded id :=
  .of_read (fun _ h => h.ofJson_toJson)
    (fun _ _ h => ⟨bounded_of_ofJson h, rfl⟩)
    (fun c => ⟨_, rfl, fun members h => by
      simp only [Json.Alike, List.forall_mem_cons] at h
      simp only [ofJson, Fields.ofJson_obj, ok_bind, Fields.getD,
        Fields.getOption_named, Fields.find?, Fields.given?, h]⟩)

end EngineConfig

namespace EditorConfig

/-- A quiet period of 64 bits is read where it was written. -/
theorem ofJson_toJson {c : EditorConfig} (h : c.debounce < 2 ^ 64) :
    ofJson c.toJson = .ok c := by
  unfold ofJson toJson
  simp [Fields.getD, Fields.find?_named, Table.lookupEntry,
    Json.toWord_ofNat h]

/-- A quiet period that has been read has 64 bits. -/
theorem debounce_lt_of_ofJson {v : Json} {c : EditorConfig}
    (h : ofJson v = .ok c) : c.debounce < 2 ^ 64 := by
  unfold ofJson at h
  simp only [bind_eq_ok_iff] at h
  obtain ⟨_, -, debounce, hdebounce, h⟩ := h
  cases h
  exact Fields.getD_toWord_lt (by decide) hdebounce

/-- Settings of the editor have an encoded form, which keeps everything. -/
theorem form :
    Form toJson ofJson (fun _ => ["debounce_ms"]) (fun c => c.debounce < 2 ^ 64)
      id :=
  .of_read (fun _ h => ofJson_toJson h)
    (fun _ _ h => ⟨debounce_lt_of_ofJson h, rfl⟩)
    (fun c => ⟨_, rfl, fun members h => by
      simp only [Json.Alike, List.forall_mem_cons] at h
      simp only [ofJson, Fields.ofJson_obj, ok_bind, Fields.getD,
        Fields.find?, Fields.given?, h]⟩)

end EditorConfig

namespace AppConfig

/-- Whether the numbers of all settings have 64 bits. -/
structure Bounded (c : AppConfig) : Prop where
  /-- The settings of the execution side. -/
  engine : c.engine.Bounded
  /-- The settings of the editor. -/
  editor : c.editor.debounce < 2 ^ 64

/-- Settings of the program are read where they were written, as those of the
    engine and of the editor are. -/
theorem Bounded.ofJson_toJson {c : AppConfig} (h : c.Bounded) :
    ofJson c.toJson = .ok c := by
  unfold ofJson toJson
  simp [Fields.getD, Fields.find?_named, Table.lookupEntry,
    h.engine.ofJson_toJson, EditorConfig.ofJson_toJson h.editor]

/-- Settings of the program that have been read have numbers of 64 bits. -/
theorem bounded_of_ofJson {v : Json} {c : AppConfig} (h : ofJson v = .ok c) :
    c.Bounded := by
  unfold ofJson at h
  simp only [bind_eq_ok_iff] at h
  obtain ⟨_, -, engine, hengine, editor, heditor, h⟩ := h
  cases h
  exact
    { engine := Fields.of_getD ⟨by decide, by decide, by decide⟩
        (fun _ _ h => EngineConfig.bounded_of_ofJson h) hengine
      editor := Fields.of_getD (P := fun c => c.debounce < 2 ^ 64) (by decide)
        (fun _ _ h => EditorConfig.debounce_lt_of_ofJson h) heditor }

/-- Settings of the program have an encoded form, which keeps everything. -/
theorem form :
    Form toJson ofJson (fun _ => ["engine", "editor"]) Bounded id :=
  .of_read (fun _ h => h.ofJson_toJson)
    (fun _ _ h => ⟨bounded_of_ofJson h, rfl⟩)
    (fun c => ⟨_, rfl, fun members h => by
      simp only [Json.Alike, List.forall_mem_cons] at h
      simp only [ofJson, Fields.ofJson_obj, ok_bind, Fields.getD,
        Fields.find?, Fields.given?, h]⟩)

end AppConfig

/-! ## Events -/

namespace Event

/-- The event that is read where this one was written. -/
def reread : Event → Event
  | .executionCompleted id outputs =>
      .executionCompleted id (outputs.map (·.filter (· ≠ .null)))
  | e => e

/-- The members of an encoded event that are read. -/
def names : Event → List String
  | .executionStarted .. => ["type", "nodeId", "backend"]
  | .executionCompleted .. => ["type", "nodeId", "outputs"]
  | .executionFailed .. => ["type", "nodeId", "error"]
  | .executionSkipped .. => ["type", "nodeId", "reason"]
  | .nodeSelected .. => ["type", "nodeId"]

/-- An event is read where it was written, except that a null output is
    none. -/
theorem ofJson_toJson (e : Event) : ofJson e.toJson = .ok e.reread := by
  have houtputs : ∀ outputs : List (Option Json),
      Json.toList (Json.toOption Json.toAny) (.arr (outputs.map outputJson))
        = .ok (outputs.map (·.filter (· ≠ .null))) := fun outputs =>
    Json.toList_arr_map (fun o _ => Json.toOption_toAny o)
  cases e <;>
    simp [ofJson, tagged, toJson, Json.get?_tableOf, Fields.get,
      Fields.find?_named, Table.lookupEntry, houtputs, reread]

/-- An event that has been read has no null outputs. -/
theorem reread_of_ofJson {v : Json} {e : Event} (h : ofJson v = .ok e) :
    e.reread = e := by
  cases e with
  | executionCompleted id outputs =>
      obtain ⟨⟨kind, body⟩, -, h⟩ := bind_eq_ok_iff.mp h
      -- of the kinds of event only one has outputs
      dsimp only at h
      split at h <;>
        simp only [bind_eq_ok_iff, Except.ok.injEq, executionCompleted.injEq,
          reduceCtorEq, and_false, exists_false] at h
      obtain ⟨_, -, _, -, outputs, houtputs, -, rfl⟩ := h
      obtain ⟨_, houtputs⟩ := Fields.exists_of_get houtputs
      refine congrArg (executionCompleted id)
        ((List.map_congr_left (fun o ho => ?_)).trans (List.map_id outputs))
      cases o with
      | none => rfl
      | some u =>
          obtain ⟨_, hu⟩ := Json.exists_of_toList houtputs _ ho
          obtain ⟨hne, hread⟩ := Json.of_toOption hu
          cases hread
          simp [Option.filter, hne]
  | executionStarted _ _ | executionFailed _ _ | executionSkipped _ _
  | nodeSelected _ => rfl

/-- Events have an encoded form, with members that depend on their kind. -/
theorem form : Form toJson ofJson names (fun _ => True) reread :=
  .of_read (fun e _ => ofJson_toJson e)
    (fun _ _ h => ⟨trivial, reread_of_ofJson h⟩)
    (fun e => by
      cases e <;> exact ⟨_, rfl, fun members h => by
        simp only [names, Json.Alike, List.forall_mem_cons] at h
        simp [ofJson, tagged, Fields.get, Fields.find?, Fields.given?, h,
          Fields.require_named, Json.get?_tableOf, Table.lookupEntry]⟩)

end Event

/-! ## All of them -/

/-- Every type that is kept in JSON is read back as it was written: the members
    that a reader knows, the bounds of numbers and times that can be written
    at all, and what is lost, which is an explicit `null` in the place of an
    optional value, and of a graph its values and marks. -/
theorem json_roundtrips :
    Form Port.toJson Port.ofJson (fun _ => ["name", "type", "extra"])
        (fun _ => True) Port.reread
      ∧ Form Record.toJson Record.ofJson
        (fun _ => ["id", "nodeType", "title", "properties", "inputs",
          "outputs", "dynamicInputs", "removed"])
        (fun _ => True) Record.reread
      ∧ Form Template.toJson Template.ofJson
        (fun _ => ["nodeType", "title", "description", "codeType", "code",
          "inputs", "outputs"])
        (fun _ => True) Template.reread
      ∧ Form SavedCode.toJson SavedCode.ofJson
        (fun _ => ["code", "language", "lastModified"])
        (fun c => c.lastModified.Valid) id
      ∧ Form Snapshot.toJson Snapshot.ofJson
        (fun _ => Snapshot.names)
        Snapshot.Bounded Snapshot.reread
      ∧ Form Graph.toJson Graph.stateOfJson
        (fun _ => ["nextHandle", "nodes", "links"])
        Graph.Bounded Graph.reread
      ∧ Form Envelope.toJson Envelope.ofJson
        (fun _ => ["ok", "value", "detail"])
        (fun _ => True) Envelope.reread
      ∧ Form ShellOutput.toJson ShellOutput.ofJson
        (fun _ => ["code", "signal", "stdout", "stderr"])
        ShellOutput.Bounded id
      ∧ Form EngineConfig.toJson EngineConfig.ofJson
        (fun _ => ["script_timeout_ms", "script_loop_limit",
          "bridge_timeout_ms", "overlap_policy", "shell_program",
          "interpreters"])
        EngineConfig.Bounded id
      ∧ Form EditorConfig.toJson EditorConfig.ofJson
        (fun _ => ["debounce_ms"])
        (fun c => c.debounce < 2 ^ 64) id
      ∧ Form AppConfig.toJson AppConfig.ofJson
        (fun _ => ["engine", "editor"])
        AppConfig.Bounded id
      ∧ Form Event.toJson Event.ofJson Event.names
        (fun _ => True) Event.reread :=
  ⟨Port.form, Record.form, Template.form, SavedCode.form, Snapshot.form,
    Graph.form, Envelope.form, ShellOutput.form, EngineConfig.form,
    EditorConfig.form, AppConfig.form, Event.form⟩

/-- Code that was saved at the start of 1970, with a member that no reader
    knows. -/
theorem json_roundtrips_saved_code :
    (⟨0, 0⟩ : Timestamp).Valid
      ∧ SavedCode.ofJson
          (.obj
            ([("author", .null)]
              ++ [("code", .str "return 1;"), ("language", .str "javascript"),
                ("lastModified", (⟨0, 0⟩ : Timestamp).toJson)]
              ++ []))
        = .ok ⟨"return 1;", "javascript", ⟨0, 0⟩⟩ := by
  have hvalid : (⟨0, 0⟩ : Timestamp).Valid :=
    ⟨by decide, by decide, by decide⟩
  obtain ⟨-, -, -, hsaved, -⟩ := json_roundtrips
  obtain ⟨own, hown, hothers⟩ :=
    hsaved.others ⟨"return 1;", "javascript", ⟨0, 0⟩⟩
  refine ⟨hvalid, ?_⟩
  cases hown
  rw [hothers _ (Json.alike_append _ _ (by simp) (by simp))]
  exact hsaved.back _ hvalid

end NodeFlow
