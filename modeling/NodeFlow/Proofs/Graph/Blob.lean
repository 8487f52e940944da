import NodeFlow.Proofs.Decimal
import NodeFlow.Proofs.Decode
import NodeFlow.Proofs.Graph.WellFormed

/-! # Reading an exported graph

    An exported graph is read back as it was, with nothing on any output and
    without marks; an option of a port that is an explicit `null` is lost.
    Nodes are read under the handles that they were written under; the order
    in which texts sort is not that of the handles, but the table that is
    built from them is the same. -/

namespace NodeFlow

/-- The port that is read where this one was written. -/
def Port.reread (p : Port) : Port :=
  { p with extra := p.extra.filter (· ≠ .null) }

/-- Whether the options of a port are kept. -/
def Port.Kept (p : Port) : Prop := p.extra ≠ some .null

theorem Port.Kept.reread {p : Port} (h : p.Kept) : p.reread = p := by
  obtain ⟨name, type, extra⟩ := p
  cases extra with
  | none => rfl
  | some e =>
      have he : e ≠ .null := fun heq => h (congrArg some heq)
      simp [Port.reread, Option.filter, he]

theorem Port.map_reread {l : List Port} (h : ∀ p ∈ l, p.Kept) :
    l.map Port.reread = l :=
  (List.map_congr_left (fun p hp => (h p hp).reread)).trans (List.map_id _)

theorem Port.ofJson_toJson (p : Port) :
    Port.ofJson p.toJson = .ok p.reread := by
  obtain ⟨name, type, extra⟩ := p
  cases extra with
  | none =>
      simp [Port.ofJson, Port.toJson, Fields.getOption, Fields.find?_named,
        Table.lookupEntry, Port.reread]
  | some e =>
      -- `null` is read as nothing, whatever was written
      have he : Json.toOption Json.toAny e
          = .ok ((some e).filter (· ≠ .null)) :=
        Json.toOption_toAny (some e)
      simp [Port.ofJson, Port.toJson, Fields.getOption, Fields.find?_named,
        Table.lookupEntry, he, Port.reread]

/-- The node that is read where this one was written. -/
def LiveNode.reread (n : LiveNode) : LiveNode :=
  LiveNode.clearValues
    { n with
      inputs := n.inputs.map Port.reread
      outputs := n.outputs.map Port.reread }

/-- A node is read where it was written, without its values. -/
theorem LiveNode.ofJson_toJson {n : LiveNode} (hn : n.handle < 2 ^ 64) :
    LiveNode.ofJson n.toJson = .ok n.reread := by
  have hi := Json.toList_arr_map (l := n.inputs)
    (fun p _ => Port.ofJson_toJson p)
  have ho := Json.toList_arr_map (l := n.outputs)
    (fun p _ => Port.ofJson_toJson p)
  unfold LiveNode.ofJson LiveNode.toJson
  simp only [Fields.ofJson_obj, ok_bind, Fields.find?_named,
    List.reverse_cons, List.reverse_nil, List.nil_append, List.cons_append,
    Table.lookupEntry]
  simp [Json.toWord_ofNat hn, hi, ho, LiveNode.clearValues, LiveNode.reread]

/-- A link that can be read is read as it was. -/
theorem Link.eq_of_ofJson_toJson {l m : Link}
    (h : Link.ofJson l.toJson = .ok m) : m = l := by
  unfold Link.ofJson Link.toJson at h
  simp only [Fields.ofJson_obj, ok_bind, Fields.find?_named,
    List.reverse_cons, List.reverse_nil, List.nil_append, List.cons_append,
    Table.lookupEntry] at h
  simp only [bind_eq_ok_iff, map_eq_ok_iff, if_true, if_false,
    String.reduceEq] at h
  obtain ⟨_, ⟨a, ha, rfl⟩, _, ⟨b, hb, rfl⟩, _, ⟨c, hc, rfl⟩, _, ⟨d, hd, rfl⟩,
    h⟩ := h
  simp only [Fields.require_some, Except.ok.injEq, exists_eq_left'] at h
  rw [← h, Json.eq_of_toWord_ofNat ha, Json.eq_of_toIndex_ofNat hb,
    Json.eq_of_toWord_ofNat hc, Json.eq_of_toIndex_ofNat hd]

/-- Whether a link is written with numbers of 64 bits. -/
structure Link.Bounded (l : Link) : Prop where
  /-- The node where it starts. -/
  source : l.source < 2 ^ 64
  /-- The place there. -/
  sourceSlot : l.sourceSlot < 2 ^ 64
  /-- The node where it ends. -/
  target : l.target < 2 ^ 64
  /-- The place there. -/
  targetSlot : l.targetSlot < 2 ^ 64

/-- A link of numbers with 64 bits is read. -/
theorem Link.Bounded.ofJson_toJson {l : Link} (h : l.Bounded) :
    Link.ofJson l.toJson = .ok l := by
  unfold Link.ofJson Link.toJson
  simp [Fields.find?_named, Table.lookupEntry, Json.toWord_ofNat h.source,
    Json.toIndex_ofNat h.sourceSlot, Json.toWord_ofNat h.target,
    Json.toIndex_ofNat h.targetSlot]

namespace Graph

/-- The graph that is read where this one was written. -/
def reread (g : Graph) : Graph :=
  { g with
    nodes := g.nodes.mapValues LiveNode.reread
    dirty := Table.empty }

/-! ## Nodes under their handles -/

/-- One written node under its handle. -/
def readEntry (e : String × Json) : Decoded (Handle × LiveNode) :=
  match handleOfText? e.1 with
  | some h => do .ok (h, ← LiveNode.ofJson e.2)
  | none =>
      .error
        (.malformed "invalid value: expected key to be a number in quotes")

/-- Written nodes are read in the order in which they stand. -/
theorem mapM_readEntry (nodes : Table Handle LiveNode)
    (hread : ∀ h n, nodes.get? h = some n →
      h < handleLimit ∧ LiveNode.ofJson n.toJson = .ok n.reread)
    (l : List (String × Json))
    (hl : ∀ e ∈ l, ∃ h n, nodes.get? h = some n
      ∧ e = (toString h, n.toJson)) :
    ∃ ys, l.mapM readEntry = .ok ys
      ∧ ys.map (fun y => toString y.1) = l.map (·.1)
      ∧ ∀ y ∈ ys, ∃ n, nodes.get? y.1 = some n ∧ y.2 = n.reread := by
  induction l with
  | nil => exact ⟨[], rfl, rfl, by simp⟩
  | cons e rest ih =>
      obtain ⟨ys, hys, hkeys, hfound⟩ :=
        ih (fun x hx => hl x (List.mem_cons_of_mem _ hx))
      obtain ⟨h, n, hn, rfl⟩ := hl e (List.mem_cons_self ..)
      obtain ⟨hlt, hok⟩ := hread h n hn
      have hentry : readEntry (toString h, n.toJson)
          = .ok (h, n.reread) := by
        simp only [readEntry, handleOfText?_toString hlt, hok, ok_bind]
      refine ⟨(h, n.reread) :: ys, ?_, ?_, ?_⟩
      · rw [List.mapM_cons, hentry, hys]
        rfl
      · rw [List.map_cons, List.map_cons, hkeys]
      · intro y hy
        rcases List.mem_cons.mp hy with rfl | hy
        · exact ⟨n, hn, rfl⟩
        · exact hfound y hy

/-- The nodes of a graph as they are written. -/
def writtenNodes (nodes : Table Handle LiveNode) : Table String Json :=
  Table.ofList (nodes.entries.map (fun (h, n) => (toString h, n.toJson)))

theorem get?_writtenNodes (nodes : Table Handle LiveNode) (k : String)
    (v : Json) :
    (writtenNodes nodes).get? k = some v ↔
      ∃ h n, nodes.get? h = some n ∧ k = toString h ∧ v = n.toJson := by
  have hkeys : ((nodes.entries.map
      (fun (h, n) => (toString h, n.toJson))).map (·.1)).Nodup := by
    rw [List.map_map]
    refine List.pairwise_map.mpr (nodes.ascending.imp (fun {a b} hab => ?_))
    exact fun h => absurd (toString_inj.mp h) (Nat.ne_of_lt hab)
  rw [writtenNodes, Table.get?_ofList_eq_some_iff hkeys, List.mem_map]
  constructor
  · rintro ⟨⟨h, n⟩, hmem, heq⟩
    cases heq
    exact ⟨h, n, (Table.mem_entries_iff nodes h n).mp hmem, rfl, rfl⟩
  · rintro ⟨h, n, hn, rfl, rfl⟩
    exact ⟨(h, n), (Table.mem_entries_iff nodes h n).mpr hn, rfl⟩

/-- Nodes are read one after the other, each under its handle. -/
theorem nodesOfJson_ofTable (t : Table String Json) :
    nodesOfJson (.ofTable t)
      = t.entries.mapM readEntry >>= fun pairs => .ok (Table.ofList pairs) := by
  simp only [nodesOfJson, Json.ofTable, Json.tableOf_entries]
  rfl

/-- Written nodes are read under their handles. -/
theorem nodesOfJson_written (nodes : Table Handle LiveNode)
    (hread : ∀ h n, nodes.get? h = some n →
      h < handleLimit ∧ LiveNode.ofJson n.toJson = .ok n.reread) :
    nodesOfJson (.ofTable (writtenNodes nodes))
      = .ok (nodes.mapValues LiveNode.reread) := by
  obtain ⟨ys, hys, hkeys, hfound⟩ :=
    mapM_readEntry nodes hread (writtenNodes nodes).entries (by
      intro e he
      obtain ⟨h, n, hn, hk, hv⟩ := (get?_writtenNodes nodes e.1 e.2).mp
        ((Table.mem_entries_iff _ e.1 e.2).mp he)
      exact ⟨h, n, hn, by rw [← hk, ← hv]⟩)
  -- handles that are written differently are different
  have hnodup : (ys.map (·.1)).Nodup := by
    have hwritten : (ys.map (fun y => toString y.1)).Nodup := by
      rw [hkeys]
      exact (writtenNodes nodes).keys_nodup
    refine List.pairwise_map.mpr
      ((List.pairwise_map.mp hwritten).imp (fun {a b} hne heq => ?_))
    exact hne (heq ▸ rfl)
  have htable : Table.ofList ys = nodes.mapValues LiveNode.reread := by
    refine Table.ext_get? (fun h => Option.ext (fun m => ?_))
    rw [Table.get?_ofList_eq_some_iff hnodup, Table.get?_mapValues,
      Option.map_eq_some_iff]
    constructor
    · intro hmem
      obtain ⟨n, hn, hm⟩ := hfound (h, m) hmem
      exact ⟨n, hn, hm.symm⟩
    · rintro ⟨n, hn, rfl⟩
      -- the node was written, and so its text was read
      have hkey : toString h ∈ ys.map (fun y => toString y.1) := by
        rw [hkeys]
        exact Table.mem_keys_iff.mpr
          ⟨n.toJson, (get?_writtenNodes nodes _ _).mpr ⟨h, n, hn, rfl, rfl⟩⟩
      obtain ⟨y, hy, hyh⟩ := List.mem_map.mp hkey
      obtain ⟨k, hk, hyk⟩ := hfound y hy
      have hh : y.1 = h := toString_inj.mp hyh
      rw [hh, hn] at hk
      cases hk
      rw [← hh, ← hyk]
      exact hy
  rw [nodesOfJson_ofTable, hys, ok_bind, htable]

/-! ## The whole graph -/

/-- No node has a greater handle than the one given last. -/
theorem WellFormed.greatestHandle_eq {g : Graph} (h : g.WellFormed) :
    greatestHandle (g.nodes.mapValues LiveNode.reread) g.lastHandle
      = g.lastHandle := by
  have hle : ∀ v ∈ (g.nodes.mapValues LiveNode.reread).keys,
      v ≤ g.lastHandle := by
    intro v hv
    obtain ⟨m, hm⟩ := Table.mem_keys_iff.mp hv
    rw [Table.get?_mapValues, Option.map_eq_some_iff] at hm
    obtain ⟨n, hn, -⟩ := hm
    exact h.bounded v n hn
  unfold greatestHandle
  -- by induction on the handles, none of which exceeds the last one
  generalize (g.nodes.mapValues LiveNode.reread).keys = ks at hle
  induction ks with
  | nil => rfl
  | cons v rest ih =>
      rw [List.foldl_cons, Nat.max_eq_left (hle v (List.mem_cons_self ..))]
      exact ih (fun u hu => hle u (List.mem_cons_of_mem _ hu))

theorem toJson_eq (g : Graph) :
    g.toJson
      = .obj
          [("links", .arr (g.links.map Link.toJson)),
            ("nextHandle", .ofNat g.lastHandle),
            ("nodes", .ofTable (writtenNodes g.nodes))] := by
  rfl

/-- The members of a graph are read one by one. -/
theorem stateOfJson_members (links last nodes : Json) :
    stateOfJson
        (.obj [("links", links), ("nextHandle", last), ("nodes", nodes)])
      = (Json.toList Link.ofJson links) >>= fun ls => last.toWord >>= fun h =>
        nodesOfJson nodes >>= fun ns =>
        .ok { lastHandle := h, nodes := ns, links := ls } := by
  unfold stateOfJson
  simp only [Fields.ofJson_obj, ok_bind, Fields.find?_named,
    List.reverse_cons, List.reverse_nil, List.nil_append, List.cons_append,
    Table.lookupEntry, String.reduceEq, if_true, if_false]
  cases Json.toList Link.ofJson links with
  | error e => rfl
  | ok ls =>
      cases last.toWord with
      | error e => rfl
      | ok h => cases nodesOfJson nodes <;> rfl

/-- Whether all numbers of a graph are such that can be written and read. -/
structure Bounded (g : Graph) : Prop where
  /-- Handles have 64 bits. -/
  handles : ∀ v n, g.nodes.get? v = some n →
    v < handleLimit ∧ n.handle < 2 ^ 64
  /-- So has the handle given last. -/
  lastHandle : g.lastHandle < 2 ^ 64
  /-- Numbers in links have 64 bits. -/
  links : ∀ l ∈ g.links, l.Bounded

/-- A graph is read as it was written, with nothing on any output. -/
theorem Bounded.stateOfJson_toJson {g : Graph} (h : g.Bounded) :
    stateOfJson g.toJson = .ok g.reread := by
  have hlinks : Json.toList Link.ofJson (.arr (g.links.map Link.toJson))
      = .ok (g.links.map id) :=
    Json.toList_arr_map (fun l hl => (h.links l hl).ofJson_toJson)
  have hnodes := nodesOfJson_written g.nodes (fun v n hn =>
    ⟨(h.handles v n hn).1, LiveNode.ofJson_toJson (h.handles v n hn).2⟩)
  rw [toJson_eq, stateOfJson_members, hlinks, ok_bind,
    Json.toWord_ofNat h.lastHandle, ok_bind, hnodes, ok_bind, List.map_id]
  rfl

theorem WellFormed.bounded_of_slots {g : Graph} (h : g.WellFormed)
    (hslots : ∀ l ∈ g.links, l.sourceSlot < 2 ^ 64 ∧ l.targetSlot < 2 ^ 64) :
    g.Bounded := by
  have hhandle : ∀ v n, g.nodes.get? v = some n → v < 2 ^ 64 := fun v n hn =>
    Nat.lt_of_le_of_lt (h.bounded v n hn) h.lastHandle
  refine ⟨fun v n hn => ⟨hhandle v n hn, ?_⟩, h.lastHandle, fun l hl => ?_⟩
  · rw [h.handle v n hn]
    exact hhandle v n hn
  · obtain ⟨s, hs, -⟩ := (h.links l hl).output
    obtain ⟨t, ht, -⟩ := (h.links l hl).input
    exact ⟨hhandle _ s hs, (hslots l hl).1, hhandle _ t ht, (hslots l hl).2⟩

/-- The nodes of a well-formed graph are read where they were written. -/
theorem WellFormed.nodesOfJson_written {g : Graph} (h : g.WellFormed) :
    nodesOfJson (.ofTable (writtenNodes g.nodes))
      = .ok (g.nodes.mapValues LiveNode.reread) := by
  refine Graph.nodesOfJson_written g.nodes (fun v n hn => ?_)
  have hlt : v < handleLimit :=
    Nat.lt_of_le_of_lt (h.bounded v n hn) h.lastHandle
  refine ⟨hlt, LiveNode.ofJson_toJson ?_⟩
  rw [h.handle v n hn]
  exact hlt

/-- An exported graph that can be read is read as it was, with nothing on any
    output. -/
theorem WellFormed.eq_reread_of_ofJson {g g' : Graph} (h : g.WellFormed)
    (hg : Graph.ofJson g.toJson = .ok g') : g' = g.reread := by
  unfold Graph.ofJson at hg
  rw [toJson_eq, stateOfJson_members, h.nodesOfJson_written,
    Json.toWord_ofNat h.lastHandle] at hg
  obtain ⟨state, hstate, rfl⟩ := map_eq_ok_iff.mp hg
  obtain ⟨ls, hls, hstate⟩ := bind_eq_ok_iff.mp hstate
  rw [ok_bind, ok_bind, Except.ok.injEq] at hstate
  have hlinks : ls = g.links := by
    rw [Json.toList_arr, List.mapM_map] at hls
    have hsame := eq_map_of_mapM_eq_ok (g := id)
      (fun l _ m hm => Link.eq_of_ofJson_toJson hm) hls
    rw [hsame, List.map_id]
  rw [← hstate, hlinks, countedOn, h.greatestHandle_eq]
  rfl

/-- Reading back an export either fails or gives the graph as it was, with
    nothing on any output. -/
theorem WellFormed.configure_toJson {g : Graph} (h : g.WellFormed) :
    Graph.configure g.toJson = .ok g.reread
      ∨ ∃ e, Graph.configure g.toJson = .error e := by
  unfold Graph.configure
  cases hg : Graph.ofJson g.toJson with
  | ok g' => exact Or.inl (by rw [h.eq_reread_of_ofJson hg])
  | error e => exact Or.inr ⟨_, rfl⟩

/-- An export is read back if the places of linked ports have 64 bits. -/
theorem WellFormed.configure_toJson_eq {g : Graph} (h : g.WellFormed)
    (hslots : ∀ l ∈ g.links, l.sourceSlot < 2 ^ 64 ∧ l.targetSlot < 2 ^ 64) :
    Graph.configure g.toJson = .ok g.reread := by
  have hcounted : g.reread.countedOn = g.reread :=
    congrArg (fun last => { g.reread with lastHandle := last })
      h.greatestHandle_eq
  unfold Graph.configure Graph.ofJson
  rw [(h.bounded_of_slots hslots).stateOfJson_toJson, ok_map, hcounted]

/-- A node is reread under its handle. -/
theorem get?_reread {g : Graph} {v : Handle} {m : LiveNode} :
    g.reread.nodes.get? v = some m ↔
      ∃ n, g.nodes.get? v = some n ∧ n.reread = m := by
  rw [reread, Table.get?_mapValues, Option.map_eq_some_iff]

/-- A graph is well-formed after it has been reread. -/
theorem WellFormed.reread {g : Graph} (h : g.WellFormed) :
    g.reread.WellFormed where
  handle v m hv := by
    obtain ⟨n, hn, rfl⟩ := get?_reread.mp hv
    exact h.handle v n hn
  bounded v m hv := by
    obtain ⟨n, hn, -⟩ := get?_reread.mp hv
    exact h.bounded v n hn
  lastHandle := h.lastHandle
  values v m hv := by
    obtain ⟨n, -, rfl⟩ := get?_reread.mp hv
    simp [LiveNode.reread, LiveNode.clearValues]
  -- a node keeps its ports, so links still fit
  links l hl := by
    have hj := h.links l hl
    obtain ⟨s, hs, hslt⟩ := hj.output
    obtain ⟨t, ht, htlt⟩ := hj.input
    refine ⟨hj.apart, ⟨_, get?_reread.mpr ⟨s, hs, rfl⟩, ?_⟩,
      ⟨_, get?_reread.mpr ⟨t, ht, rfl⟩, ?_⟩⟩
    · simpa [LiveNode.reread, LiveNode.clearValues] using hslt
    · simpa [LiveNode.reread, LiveNode.clearValues] using htlt
  single := h.single
  dirty v hv := by simp [Graph.reread, Table.contains] at hv

/-! ## Ports whose options are kept -/

/-- What is lost of a graph whose ports keep their options are values and
    marks. -/
theorem reread_eq_blank {g : Graph}
    (h : ∀ v n, g.nodes.get? v = some n →
      (∀ p ∈ n.inputs, p.Kept) ∧ ∀ p ∈ n.outputs, p.Kept) :
    g.reread = g.blank := by
  unfold Graph.reread blank
  congr 1
  refine Table.ext_get? (fun v => ?_)
  rw [Table.get?_mapValues, Table.get?_mapValues]
  cases hn : g.nodes.get? v with
  | none => rfl
  | some n =>
      obtain ⟨hin, hout⟩ := h v n hn
      unfold LiveNode.reread
      rw [Option.map_some, Port.map_reread hin, Port.map_reread hout]
      rfl

/-- Values and marks are not exported. -/
theorem toJson_blank (g : Graph) : g.blank.toJson = g.toJson := by
  have hnodes : writtenNodes g.blank.nodes = writtenNodes g.nodes := by
    unfold writtenNodes blank Table.mapValues
    rw [List.map_map]
    rfl
  rw [toJson_eq, toJson_eq, hnodes]
  rfl

end Graph
end NodeFlow
