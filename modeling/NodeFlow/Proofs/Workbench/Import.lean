import Mathlib.Data.List.Basic
import NodeFlow.Proofs.Graph.Blob
import NodeFlow.Proofs.Registry.Load
import NodeFlow.Proofs.Workbench.Consistent

/-! # Importing what was exported

    The export of a consistent workbench holds the graph, the records that
    are not removed and their nodes.  Importing it into any workbench either
    changes nothing or gives these back. -/

namespace NodeFlow.Workbench

variable {ok : Port → Prop} {view : Port → Port} {w : Workbench} {g : Graph}
  {r : Registry}

/-! ## Links in turn -/

/-- What a registry is once free records are linked to free nodes. -/
structure Restored (r r' : Registry) (l : List (String × Handle)) : Prop where
  /-- Those nodes, and those from before. -/
  links : ∀ id v, r'.links.get? id = some v ↔
    (id, v) ∈ l ∨ r.links.get? id = some v
  /-- The same from the nodes. -/
  index : ∀ v id, r'.index.get? v = some id ↔
    (id, v) ∈ l ∨ r.index.get? v = some id
  /-- Records stay. -/
  records : r'.records = r.records
  /-- So does their order. -/
  order : r'.order = r.order
  /-- So do templates. -/
  templates : r'.templates = r.templates
  /-- So does the next number. -/
  nextId : r'.nextId = r.nextId

theorem restored_links (l : List (String × Handle)) (r : Registry)
    (hnodes : ∀ e ∈ l, g.contains e.2 = true)
    (hrecords : ∀ e ∈ l, r.records.contains e.1 = true)
    (hids : (l.map (·.1)).Nodup) (hhandles : (l.map (·.2)).Nodup)
    (hlinks : ∀ e ∈ l, r.links.get? e.1 = none)
    (hindex : ∀ e ∈ l, r.index.get? e.2 = none) :
    ∃ r', restoreLinks g r l = (.ok (), r') ∧ Restored r r' l := by
  induction l generalizing r with
  | nil => exact ⟨r, rfl, by simp, by simp, rfl, rfl, rfl, rfl⟩
  | cons e rest ih =>
      obtain ⟨id, v⟩ := e
      rw [List.map_cons, List.nodup_cons] at hids hhandles
      have hrec : r.records.contains id = true :=
        hrecords _ (List.mem_cons_self ..)
      have hfree : r.links.get? id = none := hlinks _ (List.mem_cons_self ..)
      have hfreeNode : r.index.get? v = none := hindex _ (List.mem_cons_self ..)
      -- neither the record nor the node is linked yet, so both are now
      have hlink : r.link v id = (true, (r.link v id).2) :=
        Prod.ext ((Registry.link_fst r v id).trans hrec) rfl
      obtain ⟨r', hrest, hrestored⟩ := ih (r.link v id).2
        (fun e he => hnodes e (List.mem_cons_of_mem _ he))
        (fun e he => by
          rw [Registry.link_records]
          exact hrecords e (List.mem_cons_of_mem _ he))
        hids.2 hhandles.2
        (fun e he => by
          have hne : e.1 ≠ id := fun heq =>
            hids.1 (List.mem_map.mpr ⟨e, he, heq⟩)
          rw [Registry.get?_link_links hrec, if_neg hne]
          exact hlinks e (List.mem_cons_of_mem _ he))
        (fun e he => by
          have hne : e.2 ≠ v := fun heq =>
            hhandles.1 (List.mem_map.mpr ⟨e, he, heq⟩)
          rw [Registry.get?_link_index hrec hfree, if_neg hne]
          exact hindex e (List.mem_cons_of_mem _ he))
      refine ⟨r', ?_, ?_⟩
      · rw [restoreLinks, if_pos (hnodes _ (List.mem_cons_self ..)), hlink]
        exact hrest
      · constructor
        · intro j u
          rw [hrestored.links, Registry.get?_link_links hrec, List.mem_cons,
            Prod.mk.injEq]
          by_cases hj : j = id
          · simp only [hj, if_true, hfree, Option.some.injEq, reduceCtorEq,
              false_or, true_and, or_comm, eq_comm]
          · simp only [hj, if_false, false_and, false_or]
        · intro u j
          rw [hrestored.index, Registry.get?_link_index hrec hfree,
            List.mem_cons, Prod.mk.injEq]
          by_cases hu : u = v
          · simp only [hu, if_true, hfreeNode, Option.some.injEq, reduceCtorEq,
              false_or, and_true, or_comm, eq_comm]
          · simp only [hu, if_false, and_false, false_or]
        · rw [hrestored.records, Registry.link_records]
        · rw [hrestored.order, Registry.link_order]
        · rw [hrestored.templates, Registry.link_templates]
        · rw [hrestored.nextId, Registry.link_nextId]

/-! ## The links of an export -/

/-- Exported are the links of the records that are exported. -/
theorem get?_exportLinks_iff {records : List Record}
    (hids : (records.map Record.id).Nodup) {id : String} {v : Handle} :
    (exportLinks r records).get? id = some v ↔
      r.links.get? id = some v ∧ ∃ x ∈ records, x.id = id := by
  unfold exportLinks Registry.handleOf?
  have hkeys : ((records.filterMap
      (fun x => (r.links.get? x.id).map (fun u => (x.id, u)))).map
        (·.1)).Nodup := by
    rw [List.Nodup, List.pairwise_map, List.pairwise_filterMap]
    refine (List.pairwise_map.mp hids).imp
      (fun {x y} hxy e he k hk hek => hxy ?_)
    obtain ⟨u, _, rfl⟩ := Option.map_eq_some_iff.mp he
    obtain ⟨v, _, rfl⟩ := Option.map_eq_some_iff.mp hk
    exact hek
  rw [Table.get?_ofList_eq_some_iff hkeys, List.mem_filterMap]
  constructor
  · rintro ⟨x, hx, hmap⟩
    obtain ⟨u, hu, heq⟩ := Option.map_eq_some_iff.mp hmap
    cases heq
    exact ⟨hu, x, hx, rfl⟩
  · rintro ⟨hu, x, hx, rfl⟩
    exact ⟨x, hx, by rw [hu]; rfl⟩

theorem get?_exportLinks (h : r.WellFormed) (id : String) (v : Handle) :
    (exportLinks r r.live).get? id = some v ↔ r.links.get? id = some v := by
  rw [get?_exportLinks_iff h.live_ids_nodup, and_iff_left_iff_imp]
  intro hl
  obtain ⟨x, hx, hrem⟩ := (h.linked id).mp ⟨v, hl⟩
  have hid := h.named id x hx
  exact ⟨x, h.mem_live_iff.mpr ⟨hid.symm ▸ hx, hrem⟩, hid⟩

/-! ## Import -/

/-- What a registry is once the export of another one is taken in. -/
structure Imported (r r' : Registry) : Prop where
  /-- The records that are not removed. -/
  records : ∀ id x, r'.records.get? id = some x ↔
    r.records.get? id = some x ∧ x.removed = false
  /-- Their nodes. -/
  links : ∀ id, r'.links.get? id = r.links.get? id
  /-- The same from the nodes. -/
  index : ∀ v, r'.index.get? v = r.index.get? v
  /-- Their order. -/
  order : r'.order = r.live.map Record.id
  /-- The next number is one. -/
  nextId : r'.nextId < Registry.idLimit

theorem Imported.wellFormed {r' : Registry} (hi : Imported r r')
    (h : r.WellFormed) : r'.WellFormed where
  named id x hx := h.named id x ((hi.records id x).mp hx).1
  distinct := hi.order ▸ h.live_ids_nodup
  listed id := by
    rw [hi.order, List.mem_map, Table.contains_iff]
    constructor
    · rintro ⟨x, hx, rfl⟩
      exact ⟨x, (hi.records x.id x).mpr (h.mem_live_iff.mp hx)⟩
    · rintro ⟨x, hx⟩
      obtain ⟨hx, hrem⟩ := (hi.records id x).mp hx
      have hid := h.named id x hx
      exact ⟨x, h.mem_live_iff.mpr ⟨hid.symm ▸ hx, hrem⟩, hid⟩
  inverse v id := by
    rw [hi.index, hi.links]
    exact h.inverse v id
  linked id := by
    rw [hi.links, h.linked]
    constructor
    · rintro ⟨x, hx, hrem⟩
      exact ⟨x, (hi.records id x).mpr ⟨hx, hrem⟩, hrem⟩
    · rintro ⟨x, hx, hrem⟩
      exact ⟨x, ((hi.records id x).mp hx).1, hrem⟩
  inputs id x hx := h.inputs id x ((hi.records id x).mp hx).1
  nextId := hi.nextId

/-- The same records are not removed. -/
theorem Imported.live_eq {r' : Registry} (hi : Imported r r')
    (h : r.WellFormed) : r'.live = r.live := by
  have hfound : ∀ x ∈ r.live, r'.record? x.id = some x := fun x hx =>
    (hi.records x.id x).mpr (h.mem_live_iff.mp hx)
  have hall : r'.order.filterMap r'.record? = r.live := by
    rw [hi.order, List.filterMap_map]
    refine (List.filterMap_eq_map_iff_forall_eq_some.mpr hfound).trans ?_
    exact List.map_id _
  rw [Registry.live, hall]
  refine List.filter_eq_self.mpr (fun x hx => ?_)
  rw [(h.mem_live_iff.mp hx).2]
  rfl

/-- Nodes have the records that they had. -/
theorem Imported.recordOf?_eq {r' : Registry} (hi : Imported r r')
    (h : r.WellFormed) (v : Handle) : r'.recordOf? v = r.recordOf? v := by
  unfold Registry.recordOf? Registry.record?
  rw [hi.index]
  cases hv : r.index.get? v with
  | none => rfl
  | some id =>
      obtain ⟨x, hx, hrem⟩ := h.contains_of_index hv
      show r'.records.get? id = r.records.get? id
      rw [hx, (hi.records id x).mpr ⟨hx, hrem⟩]

/-- Every link of an export is put back. -/
theorem exists_restored {w' : Workbench} (h : w'.Consistent ok view)
    (r : Registry) (code : Table String SavedCode) :
    ∃ r', restoreLinks w'.graph.reread (r.load w'.registry.live code)
        (exportLinks w'.registry w'.registry.live).entries = (.ok (), r')
      ∧ Restored (r.load w'.registry.live code) r'
          (exportLinks w'.registry w'.registry.live).entries := by
  have hreg := h.registry
  have hload := Registry.loaded_load r hreg.live_ids_nodup code
  -- every link that was exported is that of a live node to its record
  have hentry : ∀ e ∈ (exportLinks w'.registry w'.registry.live).entries,
      w'.registry.links.get? e.1 = some e.2 := fun e he =>
    (get?_exportLinks hreg e.1 e.2).mp ((Table.mem_entries_iff _ _ _).mp he)
  have hrecord : ∀ e ∈ (exportLinks w'.registry w'.registry.live).entries,
      ∃ x, x ∈ w'.registry.live ∧ x.id = e.1
        ∧ w'.registry.recordOf? e.2 = some x := by
    intro e he
    obtain ⟨x, hx, hrem⟩ := (hreg.linked e.1).mp ⟨_, hentry e he⟩
    have hid := hreg.named e.1 x hx
    exact ⟨x, hreg.mem_live_iff.mpr ⟨hid.symm ▸ hx, hrem⟩, hid,
      hreg.recordOf?_eq_some_iff.mpr
        ⟨hid.symm ▸ hx, hid.symm ▸ hentry e he⟩⟩
  apply restored_links
  · intro e he
    obtain ⟨x, -, -, hx⟩ := hrecord e he
    obtain ⟨n, hn, -⟩ := h.shows e.2 x hx
    exact Graph.contains_iff.mpr ⟨_, Graph.get?_reread.mpr ⟨n, hn, rfl⟩⟩
  · intro e he
    obtain ⟨x, hx, hid, -⟩ := hrecord e he
    exact Table.contains_iff.mpr
      ⟨x, (hload.records e.1 x).mpr (Or.inl ⟨hx, hid⟩)⟩
  · exact Table.keys_nodup _
  · -- two records are not linked to one node
    rw [List.Nodup, List.pairwise_map]
    refine (List.pairwise_map.mp (Table.keys_nodup _)).imp_of_mem
      (fun {a b} ha hb hab heq => hab ?_)
    have hindex := (hreg.inverse _ _).mpr (hentry a ha)
    rw [heq, (hreg.inverse _ _).mpr (hentry b hb)] at hindex
    exact (Option.some.inj hindex).symm
  · intro e _
    rw [hload.links]
    rfl
  · intro e _
    rw [hload.index]
    rfl

theorem imported_of_restored {w' : Workbench} (h : w'.Consistent ok view)
    {r r' : Registry} {code : Table String SavedCode}
    (hr : Restored (r.load w'.registry.live code) r'
      (exportLinks w'.registry w'.registry.live).entries) :
    Imported w'.registry r' := by
  have hreg := h.registry
  have hload := Registry.loaded_load r hreg.live_ids_nodup code
  constructor
  · intro id x
    rw [hr.records, hload.records]
    constructor
    · rintro (⟨hx, rfl⟩ | hx)
      · exact hreg.mem_live_iff.mp hx
      · simp [Registry.clear] at hx
    · rintro ⟨hx, hrem⟩
      have hid := hreg.named id x hx
      exact Or.inl ⟨hreg.mem_live_iff.mpr ⟨hid.symm ▸ hx, hrem⟩, hid⟩
  · intro id
    refine Option.ext (fun v => ?_)
    rw [hr.links, hload.links, Table.mem_entries_iff, get?_exportLinks hreg]
    simp [Registry.clear]
  · intro v
    refine Option.ext (fun id => ?_)
    rw [hr.index, hload.index, Table.mem_entries_iff, get?_exportLinks hreg,
      ← hreg.inverse]
    simp [Registry.clear]
  · rw [hr.order, hload.order]
    rfl
  · rw [hr.nextId]
    exact hload.nextId (by simp [Registry.clear, Registry.idLimit])

/-- Links do not touch saved code. -/
theorem restoreLinks_code (g : Graph) (r : Registry)
    (l : List (String × Handle)) : (restoreLinks g r l).2.code = r.code := by
  induction l generalizing r with
  | nil => rfl
  | cons e rest ih =>
      obtain ⟨id, v⟩ := e
      unfold restoreLinks
      split
      · have hcode := Registry.link_code r v id
        split
        · rename_i r' hlink
          rw [hlink] at hcode
          rw [ih, hcode]
        · rfl
      · exact ih r

/-- An import of an export whose graph can be read gives back what was
    exported. -/
theorem configure_of_read {w' : Workbench} (h : w'.Consistent ok view)
    (hg : Graph.configure w'.graph.toJson = .ok w'.graph.reread)
    (w : Workbench) :
    ∃ r, w.configure w'.snapshot = (.ok (), ⟨w'.graph.reread, r⟩)
      ∧ Imported w'.registry r ∧ r.code = w'.registry.code
      ∧ r.templates = w.registry.templates := by
  obtain ⟨r, hrestore, hr⟩ := exists_restored h w.registry w'.registry.code
  refine ⟨r, ?_, imported_of_restored h hr, ?_, ?_⟩
  · unfold configure snapshot
    simp only [hg, hrestore]
  · have hcode := restoreLinks_code w'.graph.reread
      (w.registry.load w'.registry.live w'.registry.code)
      (exportLinks w'.registry w'.registry.live).entries
    rw [hrestore] at hcode
    exact hcode
  · rw [hr.templates, (Registry.loaded_load w.registry
      h.registry.live_ids_nodup w'.registry.code).templates]
    rfl

/-- An import of an export is refused and changes nothing, or gives back what
    was exported. -/
theorem configure_snapshot {w' : Workbench} (h : w'.Consistent ok view)
    (w : Workbench) :
    (∃ e, w.configure w'.snapshot = (.error e, w))
      ∨ ∃ r, w.configure w'.snapshot = (.ok (), ⟨w'.graph.reread, r⟩)
          ∧ Imported w'.registry r ∧ r.templates = w.registry.templates := by
  rcases h.graph.configure_toJson with hg | ⟨e, hg⟩
  · obtain ⟨r, hr, hi, -, htemplates⟩ := configure_of_read h hg w
    exact Or.inr ⟨r, hr, hi, htemplates⟩
  · refine Or.inl ⟨e, ?_⟩
    unfold configure snapshot
    simp only [hg]

/-- A node that shows a record still does once it is read again. -/
theorem shows_reread (hseen : Port.Seen ok view) {n : LiveNode} {x : Record}
    (hx : x.Ports ok) (hshow : n.Shows view x) : n.reread.Shows view x := by
  -- the ports look alike before, and so they do after
  have hports : ∀ {l m : List Port}, (∀ p ∈ m, ok p) →
      l.map view = m.map view → (l.map Port.reread).map view = m.map view := by
    intro l m hm hlm
    induction l generalizing m with
    | nil => exact hlm
    | cons p l ih =>
        cases m with
        | nil => cases hlm
        | cons q m =>
            rw [List.map_cons, List.map_cons, List.cons.injEq] at hlm
            rw [List.map_cons, List.map_cons, List.map_cons,
              ih (fun r hr => hm r (List.mem_cons_of_mem _ hr)) hlm.2,
              hseen.congr p q hlm.1,
              hseen.reread q (hm q (List.mem_cons_self ..))]
  refine ⟨hshow.title, hports ?_ hshow.inputs, hports hx.outputs hshow.outputs⟩
  intro p hp
  rcases List.mem_append.mp hp with hp | hp
  · exact hx.inputs p hp
  · exact hx.dynamic p hp

theorem Consistent.configure {w' : Workbench} (hseen : Port.Seen ok view)
    (h : w.Consistent ok view) (h' : w'.Consistent ok view) :
    (w.configure w'.snapshot).2.Consistent ok view := by
  obtain ⟨e, he⟩ | ⟨r, hr, hi, htemplates⟩ := configure_snapshot h' w
  · rw [he]
    exact h
  · rw [hr]
    constructor
    · exact h'.graph.reread
    · exact hi.wellFormed h'.registry
    · intro id x hx
      exact h'.ports id x ((hi.records id x).mp hx).1
    · intro type id
      show (r.newRecord id type).Ports ok
      rw [newRecord_congr htemplates]
      exact h.templates type id
    · -- nodes have the records that they were exported with
      intro v x hx
      change r.recordOf? v = some x at hx
      rw [hi.recordOf?_eq h'.registry] at hx
      obtain ⟨n, hn, hshow⟩ := h'.shows v x hx
      obtain ⟨hrec, -⟩ := h'.registry.recordOf?_eq_some_iff.mp hx
      exact ⟨n.reread, Graph.get?_reread.mpr ⟨n, hn, rfl⟩,
        shows_reread hseen (h'.ports _ x hrec) hshow⟩
    · show r.order.length ≤ w'.graph.lastHandle
      rw [hi.order, List.length_map]
      exact Nat.le_trans (Registry.live_length_le _) h'.bounded

end NodeFlow.Workbench
