import Mathlib.Data.List.TakeWhile
import NodeFlow.Proofs.Graph.Legible
import NodeFlow.Proofs.Registry.Mutual
import NodeFlow.Proofs.Workbench.Import

/-! # Any workflow, imported and exported

    A workflow that is imported need not be one that was exported: records
    may share an identifier or be marked as removed, links may lead to nodes
    that do not exist or several of them to one node, and so may the links of
    the graph.  Whatever is accepted comes out in a normal form, and the
    normal form is imported and exported unchanged
    (`configure_normalizes`). -/

namespace NodeFlow

open Registry (firsts first? linksMade)

/-- What is exported when another snapshot has been imported. -/
structure Snapshot.NormalOf (t s : Snapshot) : Prop where
  /-- Of the records with one identifier the first stays, unless it is
      removed. -/
  nodes : t.nodes = (firsts s.nodes).filter (fun x => !x.removed)
  /-- All saved code stays. -/
  code : t.code = s.code
  /-- Nodes and links of the graph stay.  The handle given last becomes that
      of a node if there is a greater one.  Of the links to nodes those stay
      that lead from a record that stays to a node of the graph. -/
  graph : ∃ last greatest nodes links,
    Graph.Reads s.graph last nodes links
      ∧ Graph.Reads t.graph greatest nodes links
      ∧ last ≤ greatest
      ∧ (∀ v ∈ nodes.keys, v ≤ greatest)
      ∧ (greatest = last ∨ greatest ∈ nodes.keys)
      ∧ ∀ id v, t.links.get? id = some v ↔
        s.links.get? id = some v ∧ nodes.contains v = true
          ∧ ∃ x ∈ t.nodes, x.id = id

namespace Registry

variable {r : Registry} {id : String} {v : Handle}

/-! ## Records -/

/-- The records of an import that are not removed. -/
theorem live_load (r : Registry) (l : List Record)
    (code : Table String SavedCode) :
    (r.load l code).live = (firsts l).filter (fun x => !x.removed) := by
  have hall : (firsts l).filterMap
      (fun x => (r.load l code).record? x.id) = firsts l := by
    refine (List.filterMap_congr (g := some) (fun x hx => ?_)).trans
      List.filterMap_some
    exact (get?_load r l code x.id).trans (mem_firsts_iff.mp hx)
  unfold live
  rw [order_load, List.filterMap_map]
  exact congrArg (List.filter _) hall

theorem live_foldl_link (l : List (String × Handle)) (r : Registry) :
    (l.foldl (fun r e => (r.link e.2 e.1).2) r).live = r.live := by
  induction l generalizing r with
  | nil => rfl
  | cons e rest ih =>
      rw [List.foldl_cons, ih]
      unfold live record?
      rw [link_order, link_records]

theorem code_foldl_link (l : List (String × Handle)) (r : Registry) :
    (l.foldl (fun r e => (r.link e.2 e.1).2) r).code = r.code := by
  induction l generalizing r with
  | nil => rfl
  | cons e rest ih => rw [List.foldl_cons, ih, link_code]

end Registry

namespace Workbench

variable {w : Workbench} {g : Graph} {r : Registry} {s : Snapshot}

/-! ## Links -/

/-- Links are restored if those to live nodes are links of records. -/
theorem restoreLinks_eq_ok_iff {l : List (String × Handle)} :
    (restoreLinks g r l).1 = .ok () ↔
      ∀ e ∈ l, g.contains e.2 = true → r.records.contains e.1 = true := by
  induction l generalizing r with
  | nil => simp [restoreLinks]
  | cons e rest ih =>
      obtain ⟨id, v⟩ := e
      rw [restoreLinks, List.forall_mem_cons]
      cases hv : g.contains v with
      | false =>
          -- a link to a node that does not exist is left out
          simpa using ih
      | true =>
          cases hid : r.records.contains id with
          | false =>
              rw [Registry.link_of_not_contains hid]
              simp
          | true =>
              have hlink : r.link v id = (true, (r.link v id).2) :=
                Prod.ext ((Registry.link_fst r v id).trans hid) rfl
              rw [hlink]
              simp only [if_true, ih, Registry.link_records, true_and,
                forall_const]

/-- If all links are restored, all links to live nodes are made. -/
theorem mem_linksMade_iff {l : List (String × Handle)}
    (h : ∀ e ∈ l, g.contains e.2 = true → r.records.contains e.1 = true)
    {e : String × Handle} :
    e ∈ linksMade g r l ↔ e ∈ l ∧ g.contains e.2 = true := by
  have hall : linksMade g r l = l.filter (fun e => g.contains e.2) := by
    refine List.takeWhile_eq_self_iff.mpr (fun e he => ?_)
    obtain ⟨hmem, hv⟩ := List.mem_filter.mp he
    exact h e hmem hv
  rw [hall, List.mem_filter]

/-! ## One import -/

/-- What is exported after an import that was accepted. -/
structure Accepted (s : Snapshot) (g : Graph) (t : Snapshot) : Prop where
  /-- The graph has been read. -/
  read : Graph.configure s.graph = .ok g
  /-- It is written again. -/
  graph : t.graph = g.toJson
  /-- Records that are not removed. -/
  nodes : t.nodes = (firsts s.nodes).filter (fun x => !x.removed)
  /-- Links of these records to live nodes. -/
  links : ∀ id v, t.links.get? id = some v ↔
    s.links.get? id = some v ∧ g.contains v = true ∧ ∃ x ∈ t.nodes, x.id = id
  /-- Saved code. -/
  code : t.code = s.code

/-- An import is accepted if the graph can be read and links to live nodes
    name records. -/
theorem configure_eq_ok_iff :
    (w.configure s).1 = .ok () ↔
      ∃ g, Graph.configure s.graph = .ok g
        ∧ ∀ id v, s.links.get? id = some v → g.contains v = true →
          ∃ x ∈ s.nodes, x.id = id := by
  have hload : ∀ id, (w.registry.load s.nodes s.code).records.contains id
      = true ↔ ∃ x ∈ s.nodes, x.id = id := by
    intro id
    rw [Table.contains, Registry.get?_load, first?, List.find?_isSome]
    simp
  unfold configure
  cases Graph.configure s.graph with
  | error e => simp
  | ok g =>
      simp only [restoreLinks_eq_ok_iff, Except.ok.injEq, exists_eq_left',
        hload]
      exact ⟨fun h id v hv => h (id, v) ((Table.mem_entries_iff _ _ _).mpr hv),
        fun h e he => h e.1 e.2 ((Table.mem_entries_iff _ _ _).mp he)⟩

theorem accepted (h : (w.configure s).1 = .ok ()) :
    ∃ g, Accepted s g (w.configure s).2.snapshot := by
  obtain ⟨g, hg, hlinks⟩ := configure_eq_ok_iff.mp h
  have hload := w.registry.sameLinks_load s.nodes s.code
  -- so no link is refused, and none after it left out
  have hrecords : ∀ e ∈ s.links.entries, g.contains e.2 = true →
      (w.registry.load s.nodes s.code).records.contains e.1 = true := by
    intro e he hv
    rw [Table.contains, Registry.get?_load, first?, List.find?_isSome]
    obtain ⟨x, hx, hid⟩ :=
      hlinks e.1 e.2 ((Table.mem_entries_iff _ _ _).mp he) hv
    exact ⟨x, hx, beq_iff_eq.mpr hid⟩
  let made := linksMade g (w.registry.load s.nodes s.code) s.links.entries
  have hids : (made.map (·.1)).Nodup :=
    s.links.keys_nodup.sublist ((Registry.linksMade_sublist _ _ _).map _)
  have hafter : (w.configure s).2 = ⟨g, made.foldl
      (fun r e => (r.link e.2 e.1).2) (w.registry.load s.nodes s.code)⟩ := by
    unfold configure
    rw [hg]
    exact congrArg _ (Registry.restoreLinks_eq g _ _)
  have hlive : (w.configure s).2.registry.live
      = (firsts s.nodes).filter (fun x => !x.removed) := by
    rw [hafter]
    exact (Registry.live_foldl_link made _).trans (Registry.live_load _ _ _)
  refine ⟨g, hg, by rw [hafter]; rfl, hlive, fun id v => ?_, ?_⟩
  · show (exportLinks _ (w.configure s).2.registry.live).get? id = some v ↔ _
    rw [get?_exportLinks_iff, ← and_assoc]
    · refine and_congr_left' ?_
      rw [hafter, Registry.get?_foldl_link
        (fun _ => Registry.mem_linksMade) hids, hload.links,
        mem_linksMade_iff hrecords, Table.mem_entries_iff]
      simp [Registry.clear]
    · rw [hlive]
      exact (Registry.firsts_ids_nodup _).sublist (List.filter_sublist.map _)
  · rw [hafter]
    exact Registry.code_foldl_link made _

/-! ## The normal form -/

theorem Accepted.normalOf {t : Snapshot} (h : Accepted s g t) :
    t.NormalOf s := by
  have hlegible := Graph.legible_of_configure h.read
  obtain ⟨last, nodes, links, hreads, rfl⟩ :=
    Graph.configure_eq_ok_iff.mp h.read
  obtain ⟨hle, hall, hmem⟩ := Graph.greatestHandle_spec nodes last
  exact ⟨h.nodes, h.code, last, _, nodes, links, hreads,
    h.graph ▸ hlegible.reads, hle, hall, hmem, h.links⟩

/-- The normal form is accepted, and it is that of itself. -/
theorem Accepted.again {t : Snapshot} (h : Accepted s g t) (w : Workbench) :
    (w.configure t).1 = .ok () ∧ (w.configure t).2.snapshot = t := by
  have hread : Graph.configure t.graph = .ok g := by
    rw [h.graph]
    exact (Graph.legible_of_configure h.read).configure_toJson
  have hok : (w.configure t).1 = .ok () :=
    configure_eq_ok_iff.mpr
      ⟨g, hread, fun id v hv _ => ((h.links id v).mp hv).2.2⟩
  refine ⟨hok, ?_⟩
  obtain ⟨g', h'⟩ := accepted hok
  have hg : g' = g := Except.ok.inj (h'.read.symm.trans hread)
  subst hg
  -- its records are first ones, and none is removed
  have hnodes : (w.configure t).2.snapshot.nodes = t.nodes := by
    have hids : (t.nodes.map Record.id).Nodup := by
      rw [h.nodes]
      exact (Registry.firsts_ids_nodup _).sublist (List.filter_sublist.map _)
    rw [h'.nodes, Registry.firsts_eq_self hids, h.nodes, List.filter_filter]
    simp only [Bool.and_self]
  -- its links are links of these records to live nodes already
  have hlinks : (w.configure t).2.snapshot.links = t.links := by
    refine Table.ext_get? (fun id => Option.ext (fun v => ?_))
    rw [h'.links, hnodes]
    exact ⟨fun hv => hv.1, fun hv => ⟨hv, ((h.links id v).mp hv).2⟩⟩
  have hgraph := h'.graph.trans h.graph.symm
  have hcode := h'.code
  exact (Snapshot.mk.injEq ..).mpr ⟨hgraph, hnodes, hlinks, hcode⟩

/-- Whatever is accepted comes out in its normal form, which any workbench
    accepts and exports unchanged. -/
theorem configure_normalizes (h : (w.configure s).1 = .ok ()) :
    (w.configure s).2.snapshot.NormalOf s
      ∧ ∀ w' : Workbench,
        (w'.configure (w.configure s).2.snapshot).1 = .ok ()
          ∧ (w'.configure (w.configure s).2.snapshot).2.snapshot
            = (w.configure s).2.snapshot := by
  obtain ⟨g, hg⟩ := accepted h
  exact ⟨hg.normalOf, hg.again⟩

/-- Of four records one is removed, and one has the identifier of another.
    Both other records are linked, one of them to a node that does not exist;
    the removed record shares its node.  The graph has a node above its last
    handle, and its links lead nowhere. -/
theorem configure_normalizes_untidy :
    let n : LiveNode := ⟨5, "t", "t", [], [⟨"x", "any", none⟩], [none]⟩
    let g : Graph :=
      { nodes := Table.ofList [(4, n)]
        links := [⟨4, 0, 9, 0⟩, ⟨4, 0, 9, 0⟩] }
    let x (id title : String) : Record := { id, nodeType := "t", title }
    let s : Snapshot :=
      { graph := g.toJson
        nodes := [x "1" "a", { x "2" "b" with removed := true }, x "1" "c",
          x "3" "d"]
        links := Table.ofList [("1", 4), ("2", 4), ("3", 7)]
        code := Table.ofList [("8", ⟨"", "", default⟩)] }
    let t := (({} : Workbench).configure s).2.snapshot
    (({} : Workbench).configure s).1 = .ok ()
      ∧ t.NormalOf s
      ∧ t.nodes = [x "1" "a", x "3" "d"]
      ∧ t.links.entries = [("1", 4)]
      ∧ t.graph = { g with lastHandle := 4 }.toJson
      ∧ (({} : Workbench).configure t).2.snapshot = t := by
  intro n g x s t
  have hok : (({} : Workbench).configure s).1 = .ok () := by decide +kernel
  obtain ⟨hnormal, hagain⟩ := configure_normalizes hok
  exact ⟨hok, hnormal, by decide +kernel, by decide +kernel,
    by decide +kernel, (hagain {}).2⟩

end Workbench
end NodeFlow
