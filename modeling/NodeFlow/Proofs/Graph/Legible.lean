import NodeFlow.Proofs.Graph.Blob

/-! # Graphs that have been read

    Whatever is read as a graph, the numbers in it have 64 bits, no port has
    an explicit `null` for its options, and nothing is on any output.  The
    links may lead anywhere.  Such a graph is exported and read back
    unchanged (`Legible.configure_toJson`). -/

namespace NodeFlow

/-! ## What single values are read as -/

theorem Port.kept_of_ofJson {v : Json} {p : Port} (h : Port.ofJson v = .ok p) :
    p.Kept := by
  unfold Port.ofJson at h
  simp only [bind_eq_ok_iff] at h
  obtain ⟨fields, -, extra, hextra, _, -, _, -, _, -, _, -, h⟩ := h
  cases h
  exact Fields.getOption_ne_null hextra

theorem Port.kept_of_toList {v : Json} {l : List Port}
    (h : Json.toList Port.ofJson v = .ok l) : ∀ p ∈ l, p.Kept := by
  intro p hp
  obtain ⟨u, hu⟩ := Json.exists_of_toList h p hp
  exact Port.kept_of_ofJson hu

/-- A node that has been read is read again as it is. -/
theorem LiveNode.reread_of_ofJson {v : Json} {n : LiveNode}
    (h : LiveNode.ofJson v = .ok n) : n.handle < 2 ^ 64 ∧ n.reread = n := by
  unfold LiveNode.ofJson at h
  simp only [bind_eq_ok_iff, Fields.require_eq_ok_iff] at h
  obtain ⟨fields, -, _, hhandle, _, hinputs, _, -, _, houtputs, _, -, handle,
    rfl, _, rfl, _, rfl, inputs, rfl, outputs, rfl, h⟩ := h
  cases h
  have hkept : ∀ {position name} {l : List Port},
      fields.find? position name (Json.toList Port.ofJson) = .ok (some l) →
        l.map Port.reread = l := by
    intro position name l hl
    obtain ⟨u, hu⟩ := Fields.exists_of_find? hl
    exact Port.map_reread (Port.kept_of_toList hu)
  obtain ⟨u, hu⟩ := Fields.exists_of_find? hhandle
  refine ⟨Json.toWord_lt hu, ?_⟩
  simp only [LiveNode.reread, LiveNode.clearValues, hkept hinputs,
    hkept houtputs]

theorem Link.bounded_of_ofJson {v : Json} {l : Link}
    (h : Link.ofJson v = .ok l) : l.Bounded := by
  unfold Link.ofJson at h
  simp only [bind_eq_ok_iff, Fields.require_eq_ok_iff] at h
  obtain ⟨fields, -, _, hs, _, hi, _, ht, _, hj, s, rfl, i, rfl, t, rfl, j,
    rfl, h⟩ := h
  cases h
  obtain ⟨_, hs⟩ := Fields.exists_of_find? hs
  obtain ⟨_, hi⟩ := Fields.exists_of_find? hi
  obtain ⟨_, ht⟩ := Fields.exists_of_find? ht
  obtain ⟨_, hj⟩ := Fields.exists_of_find? hj
  exact ⟨Json.toWord_lt hs, Json.toIndex_lt hi, Json.toWord_lt ht,
    Json.toIndex_lt hj⟩

namespace Graph

/-! ## What a graph is read as -/

/-- What is read of the exported form of a graph: the handle given last, the
    nodes and the links. -/
def Reads (v : Json) (last : Handle) (nodes : Table Handle LiveNode)
    (links : List Link) : Prop :=
  ∃ fields, Fields.ofJson "GraphState" 3 v = .ok fields
    ∧ fields.find? 0 "nextHandle" Json.toWord = .ok (some last)
    ∧ fields.find? 1 "nodes" nodesOfJson = .ok (some nodes)
    ∧ fields.find? 2 "links" (Json.toList Link.ofJson) = .ok (some links)

/-- What is read as a graph has a last handle, nodes and links, and no
    marks. -/
theorem stateOfJson_eq_ok_iff {v : Json} {g : Graph} :
    stateOfJson v = .ok g ↔
      Reads v g.lastHandle g.nodes g.links ∧ g.dirty = Table.empty := by
  unfold stateOfJson Reads
  simp only [bind_eq_ok_iff, Fields.require_eq_ok_iff, Except.ok.injEq]
  constructor
  · rintro ⟨fields, hf, _, hlinks, _, hlast, _, hnodes, last, rfl, nodes, rfl,
      links, rfl, rfl⟩
    exact ⟨⟨fields, hf, hlast, hnodes, hlinks⟩, rfl⟩
  · rintro ⟨⟨fields, hf, hlast, hnodes, hlinks⟩, hdirty⟩
    refine ⟨fields, hf, _, hlinks, _, hlast, _, hnodes, _, rfl, _, rfl, _, rfl,
      ?_⟩
    rw [← hdirty]

/-- What is imported is what is read, with the greatest handle as the one that
    was given last. -/
theorem configure_eq_ok_iff {v : Json} {g : Graph} :
    Graph.configure v = .ok g ↔
      ∃ last nodes links, Reads v last nodes links
        ∧ g = { lastHandle := greatestHandle nodes last
                nodes := nodes
                links := links } := by
  have hread : Graph.configure v = .ok g ↔ Graph.ofJson v = .ok g := by
    unfold Graph.configure
    cases Graph.ofJson v <;> simp
  rw [hread]
  unfold Graph.ofJson
  simp only [map_eq_ok_iff, stateOfJson_eq_ok_iff]
  constructor
  · rintro ⟨state, ⟨hreads, hdirty⟩, rfl⟩
    refine ⟨_, _, _, hreads, ?_⟩
    unfold countedOn
    rw [hdirty]
  · rintro ⟨last, nodes, links, hreads, rfl⟩
    exact ⟨⟨last, nodes, links, Table.empty⟩, ⟨hreads, rfl⟩, rfl⟩

/-- The greatest handle is the greatest of those that there are. -/
theorem greatestHandle_spec (nodes : Table Handle LiveNode) (last : Handle) :
    last ≤ greatestHandle nodes last
      ∧ (∀ v ∈ nodes.keys, v ≤ greatestHandle nodes last)
      ∧ (greatestHandle nodes last = last
        ∨ greatestHandle nodes last ∈ nodes.keys) := by
  unfold greatestHandle
  generalize nodes.keys = ks
  induction ks generalizing last with
  | nil => simp
  | cons v rest ih =>
      obtain ⟨hle, hall, hmem⟩ := ih (max last v)
      rw [List.foldl_cons]
      refine ⟨Nat.le_trans (Nat.le_max_left _ _) hle, ?_, ?_⟩
      · intro u hu
        rcases List.mem_cons.mp hu with rfl | hu
        · exact Nat.le_trans (Nat.le_max_right _ _) hle
        · exact hall u hu
      · rcases hmem with heq | hmem
        · rw [heq]
          rcases Nat.le_total v last with h | h
          · exact Or.inl (Nat.max_eq_left h)
          · exact Or.inr (by rw [Nat.max_eq_right h]; exact List.mem_cons_self)
        · exact Or.inr (List.mem_cons_of_mem _ hmem)

/-- Whether a graph is like one that has been read. -/
structure Legible (g : Graph) : Prop where
  /-- Handles have 64 bits. -/
  handles : ∀ v n, g.nodes.get? v = some n → v < handleLimit
  /-- Nodes are read as they are written. -/
  nodes : ∀ v n, g.nodes.get? v = some n → n.handle < 2 ^ 64 ∧ n.reread = n
  /-- Numbers in links have 64 bits. -/
  links : ∀ l ∈ g.links, l.Bounded
  /-- So has the handle given last. -/
  lastHandle : g.lastHandle < 2 ^ 64
  /-- No node has a greater handle. -/
  bounded : ∀ v ∈ g.nodes.keys, v ≤ g.lastHandle
  /-- Nothing is marked. -/
  dirty : g.dirty = Table.empty

theorem handleOfText?_lt {s : String} {v : Handle}
    (h : handleOfText? s = some v) : v < handleLimit := by
  unfold handleOfText? at h
  simp only at h
  split at h
  · cases h
  · split at h
    · rename_i hlt
      cases h
      exact hlt.2
    · cases h

/-- Nodes that have been read have handles of 64 bits and nothing left to
    lose. -/
theorem nodes_of_nodesOfJson {v : Json} {nodes : Table Handle LiveNode}
    (h : nodesOfJson v = .ok nodes) (u : Handle) (n : LiveNode)
    (hn : nodes.get? u = some n) :
    u < handleLimit ∧ n.handle < 2 ^ 64 ∧ n.reread = n := by
  cases v with
  | obj members =>
      obtain ⟨pairs, hpairs, h⟩ := bind_eq_ok_iff.mp h
      cases h
      -- what is looked up is an entry that was read with its key
      have hmem : (u, n) ∈ pairs := by
        rw [Table.get?_ofList] at hn
        exact List.mem_reverse.mp (Table.mem_of_lookupEntry hn)
      obtain ⟨⟨key, w⟩, -, hread⟩ := exists_of_mapM_eq_ok hpairs _ hmem
      simp only at hread
      split at hread
      · rename_i handle hkey
        obtain ⟨m, hm, heq⟩ := bind_eq_ok_iff.mp hread
        cases heq
        exact ⟨handleOfText?_lt hkey, LiveNode.reread_of_ofJson hm⟩
      · cases hread
  | null | bool _ | number _ | str _ | arr _ => cases h

/-- A graph that has been imported can be exported. -/
theorem legible_of_configure {v : Json} {g : Graph}
    (h : Graph.configure v = .ok g) : g.Legible := by
  obtain ⟨last, nodes, links, ⟨fields, -, hlast, hnodes, hlinks⟩, rfl⟩ :=
    configure_eq_ok_iff.mp h
  obtain ⟨_, hlast⟩ := Fields.exists_of_find? hlast
  obtain ⟨_, hnodes⟩ := Fields.exists_of_find? hnodes
  obtain ⟨_, hlinks⟩ := Fields.exists_of_find? hlinks
  obtain ⟨-, hall, hmem⟩ := greatestHandle_spec nodes last
  refine
    { handles := fun u n hn => (nodes_of_nodesOfJson hnodes u n hn).1
      nodes := fun u n hn => (nodes_of_nodesOfJson hnodes u n hn).2
      links := fun l hl => ?_
      lastHandle := ?_
      bounded := hall
      dirty := rfl }
  · obtain ⟨w, hw⟩ := Json.exists_of_toList hlinks l hl
    exact Link.bounded_of_ofJson hw
  · show greatestHandle nodes last < 2 ^ 64
    -- the greatest handle is the one that was read, or that of a node
    rcases hmem with heq | hmem
    · rw [heq]
      exact Json.toWord_lt hlast
    · obtain ⟨n, hn⟩ := Table.mem_keys_iff.mp hmem
      exact (nodes_of_nodesOfJson hnodes _ n hn).1

theorem mapValues_reread {nodes : Table Handle LiveNode}
    (h : ∀ v n, nodes.get? v = some n → n.reread = n) :
    nodes.mapValues LiveNode.reread = nodes := by
  refine Table.ext_get? (fun v => ?_)
  rw [Table.get?_mapValues]
  cases hn : nodes.get? v with
  | none => rfl
  | some n => rw [Option.map_some, h v n hn]

/-- What is exported of a graph that has been read is read again. -/
theorem Legible.reads {g : Graph} (h : g.Legible) :
    Reads g.toJson g.lastHandle g.nodes g.links := by
  have hlinks : Json.toList Link.ofJson (.arr (g.links.map Link.toJson))
      = .ok (g.links.map id) :=
    Json.toList_arr_map (fun l hl => (h.links l hl).ofJson_toJson)
  have hnodes := mapValues_reread (fun v n hn => (h.nodes v n hn).2)
  have hwritten := nodesOfJson_written g.nodes (fun v n hn =>
    ⟨h.handles v n hn, LiveNode.ofJson_toJson (h.nodes v n hn).1⟩)
  rw [hnodes] at hwritten
  rw [List.map_id] at hlinks
  rw [toJson_eq]
  refine ⟨_, Fields.ofJson_obj _ _ _, ?_, ?_, ?_⟩ <;>
    simp [Fields.find?_named, Table.lookupEntry, hlinks, hwritten,
      Json.toWord_ofNat h.lastHandle]

/-- A graph that has been read is exported and read back unchanged. -/
theorem Legible.configure_toJson {g : Graph} (h : g.Legible) :
    Graph.configure g.toJson = .ok g := by
  have hgreatest : greatestHandle g.nodes g.lastHandle = g.lastHandle := by
    obtain ⟨hle, -, heq | hmem⟩ := greatestHandle_spec g.nodes g.lastHandle
    · exact heq
    · exact Nat.le_antisymm (h.bounded _ hmem) hle
  refine configure_eq_ok_iff.mpr ⟨_, _, _, h.reads, ?_⟩
  rw [hgreatest, ← h.dirty]

end Graph
end NodeFlow
