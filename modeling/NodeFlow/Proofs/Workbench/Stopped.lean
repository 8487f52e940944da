import NodeFlow.Proofs.Text
import NodeFlow.Proofs.Workbench.Normal

/-! # Imports that stop

    An import reads the graph, takes in the records and then makes the links
    in the order of their identifiers.  A graph that cannot be read leaves
    everything as it was.  A link that leads from no record to a node of the
    graph stops the import: what has been done is then what the import of the
    links before it does (`configure_stops`). -/

namespace NodeFlow

/-- Whether a link of a snapshot leads to a node of the graph from an
    identifier that is none of a record. -/
def Snapshot.Stray (s : Snapshot) (g : Graph) (id : String) : Prop :=
  (∃ v, s.links.get? id = some v ∧ g.contains v = true)
    ∧ ∀ x ∈ s.nodes, x.id ≠ id

/-- Whether an identifier is the first such one, in the order of octets. -/
def Snapshot.FirstStray (s : Snapshot) (g : Graph) (id : String) : Prop :=
  s.Stray g id
    ∧ ∀ j, s.Stray g j → j ≠ id → Text.octets id < Text.octets j

/-- The snapshot with the links of the identifiers before one, in the order of
    octets. -/
def Snapshot.upTo (s : Snapshot) (id : String) : Snapshot :=
  { s with
    links := s.links.filter
      (fun j _ => decide (Text.octets j < Text.octets id)) }

namespace Workbench

variable {w : Workbench} {g : Graph} {r : Registry} {s : Snapshot}
  {b : String} {v : Handle} {before after : List (String × Handle)}

/-- Links are restored up to the first that leads from no record to a
    node. -/
theorem restoreLinks_append_stray
    (hbefore : ∀ e ∈ before, g.contains e.2 = true →
      r.records.contains e.1 = true)
    (hv : g.contains v = true) (hb : r.records.contains b = false) :
    restoreLinks g r (before ++ (b, v) :: after)
      = (.error (.unknownRecord b), (restoreLinks g r before).2) := by
  induction before generalizing r with
  | nil => simp [restoreLinks, hv, Registry.link_of_not_contains hb]
  | cons e rest ih =>
      obtain ⟨id, u⟩ := e
      obtain ⟨hhead, hrest⟩ := List.forall_mem_cons.mp hbefore
      rw [List.cons_append, restoreLinks, restoreLinks]
      cases hu : g.contains u with
      | false => exact ih hrest hb
      | true =>
          have hlink : r.link u id = (true, (r.link u id).2) :=
            Prod.ext ((Registry.link_fst r u id).trans (hhead hu)) rfl
          rw [hlink]
          refine ih (fun e he => ?_) ?_
          · rw [Registry.link_records]
            exact hrest e he
          · rw [Registry.link_records]
            exact hb

/-- The links before one of them in the table are those of lesser
    identifiers. -/
theorem filter_octets_lt {l : Table String Handle}
    (hl : l.entries = before ++ (b, v) :: after) :
    (l.filter (fun j _ => decide (Text.octets j < Text.octets b))).entries
      = before := by
  have hasc := l.ascending
  rw [hl, List.pairwise_append] at hasc
  obtain ⟨-, hafter, hapart⟩ := hasc
  show l.entries.filter _ = before
  rw [hl, List.filter_append, List.filter_eq_self.mpr,
    List.filter_eq_nil_iff.mpr, List.append_nil]
  · intro e he
    simp only [Text.octets_lt_iff, decide_eq_true_eq]
    rcases List.mem_cons.mp he with rfl | he
    · exact Std.lt_irrefl
    · exact fun hlt => Std.lt_irrefl
        (Std.lt_trans hlt (List.rel_of_pairwise_cons hafter he))
  · intro e he
    simp only [Text.octets_lt_iff, decide_eq_true_eq]
    exact hapart e he (b, v) (List.mem_cons_self ..)

/-- The identifiers of an import are those of the records of the snapshot. -/
theorem contains_load_iff {id : String} :
    (r.load s.nodes s.code).records.contains id = true
      ↔ ∃ x ∈ s.nodes, x.id = id := by
  rw [Table.contains, Registry.get?_load, Registry.first?, List.find?_isSome]
  simp

/-- A link is restored unless it is a stray one. -/
theorem stray_iff_of_mem {e : String × Handle} (he : e ∈ s.links.entries) :
    s.Stray g e.1 ↔ g.contains e.2 = true
      ∧ (r.load s.nodes s.code).records.contains e.1 = false := by
  have hget : s.links.get? e.1 = some e.2 :=
    (Table.mem_entries_iff _ _ _).mp he
  rw [← Bool.not_eq_true, contains_load_iff]
  unfold Snapshot.Stray
  simp [hget]

/-- An import whose graph is read ends well if there is no stray link. -/
theorem configure_of_none_stray (hg : Graph.configure s.graph = .ok g)
    (h : ∀ id, ¬ s.Stray g id) : (w.configure s).1 = .ok () := by
  refine configure_eq_ok_iff.mpr ⟨g, hg, fun id v hv hnode => ?_⟩
  by_contra hnone
  exact h id ⟨⟨v, hv, hnode⟩, fun x hx hid => hnone ⟨x, hx, hid⟩⟩

/-- A stray link stops an import where the links before it lead to. -/
theorem configure_of_split (hg : Graph.configure s.graph = .ok g)
    (hl : s.links.entries = before ++ (b, v) :: after) (hb : s.Stray g b)
    (hbefore : ∀ e ∈ before, ¬ s.Stray g e.1) :
    w.configure s = (.error (.unknownRecord b), (w.configure (s.upTo b)).2)
      ∧ (w.configure (s.upTo b)).1 = .ok () := by
  let r := w.registry.load s.nodes s.code
  have hmem : (b, v) ∈ s.links.entries := by simp [hl]
  obtain ⟨hv, hid⟩ := (stray_iff_of_mem (r := w.registry) hmem).mp hb
  -- the links before the stray one are all followed
  have hrecords : ∀ e ∈ before, g.contains e.2 = true →
      r.records.contains e.1 = true := by
    intro e he hnode
    have hentry : e ∈ s.links.entries := by
      rw [hl]
      exact List.mem_append_left _ he
    have hnot := hbefore e he
    rw [stray_iff_of_mem (r := w.registry) hentry, not_and,
      Bool.not_eq_false] at hnot
    exact hnot hnode
  have hupTo : w.configure (s.upTo b)
      = ((restoreLinks g r before).1, ⟨g, (restoreLinks g r before).2⟩) := by
    unfold configure Snapshot.upTo
    simp only [hg, filter_octets_lt hl]
    rfl
  refine ⟨?_, ?_⟩
  · rw [hupTo]
    unfold configure
    simp only [hg, hl]
    rw [restoreLinks_append_stray hrecords hv hid]
  · rw [hupTo]
    exact restoreLinks_eq_ok_iff.mpr hrecords

/-- Of the stray links one comes first in the table, and so in the order of
    octets. -/
theorem exists_split (h : ∃ id, s.Stray g id) :
    ∃ b v before after, s.links.entries = before ++ (b, v) :: after
      ∧ s.FirstStray g b ∧ ∀ e ∈ before, ¬ s.Stray g e.1 := by
  classical
  have hfind : (s.links.entries.find?
      (fun e => decide (s.Stray g e.1))).isSome = true := by
    obtain ⟨id, hid⟩ := h
    obtain ⟨v, hv, -⟩ := hid.1
    rw [List.find?_isSome]
    exact ⟨(id, v), (Table.mem_entries_iff _ _ _).mpr hv,
      decide_eq_true hid⟩
  obtain ⟨⟨b, v⟩, hb⟩ := Option.isSome_iff_exists.mp hfind
  obtain ⟨hstray, before, after, hl, hnone⟩ :=
    List.find?_eq_some_iff_append.mp hb
  simp only [decide_eq_true_eq, Bool.not_eq_eq_eq_not, Bool.not_true,
    decide_eq_false_iff_not] at hstray hnone
  refine ⟨b, v, before, after, hl, ⟨hstray, fun j hj hne => ?_⟩, hnone⟩
  -- a stray link with a lesser id would have been found before this one
  obtain ⟨u, hu, -⟩ := hj.1
  have hmem : (j, u) ∈ before ++ (b, v) :: after :=
    hl ▸ (Table.mem_entries_iff _ _ _).mpr hu
  rw [Text.octets_lt_iff]
  rcases List.mem_append.mp hmem with hmem | hmem
  · exact absurd hj (hnone (j, u) hmem)
  · rcases List.mem_cons.mp hmem with heq | hmem
    · exact absurd (congrArg Prod.fst heq) hne
    · have hasc := s.links.ascending
      rw [hl, List.pairwise_append] at hasc
      exact List.rel_of_pairwise_cons hasc.2.1 hmem

/-- An import either fails on the graph and changes nothing, or makes all
    links to nodes, or stops at the first stray one, where everything is as
    after the import of the links before it. -/
theorem configure_stops (w : Workbench) (s : Snapshot) :
    (∀ e, Graph.ofJson s.graph = .error e →
      w.configure s = (.error (.undecodable e), w))
    ∧ ∀ g, Graph.ofJson s.graph = .ok g →
      ((∀ id, ¬ s.Stray g id) → (w.configure s).1 = .ok ())
      ∧ ((∃ id, s.Stray g id) → ∃ b, s.FirstStray g b
        ∧ w.configure s
          = (.error (.unknownRecord b), (w.configure (s.upTo b)).2)
        ∧ (w.configure (s.upTo b)).1 = .ok ()) := by
  refine ⟨fun e he => ?_, fun g hg => ?_⟩
  · unfold configure Graph.configure
    rw [he]
  · have hread : Graph.configure s.graph = .ok g := by
      unfold Graph.configure
      rw [hg]
    refine ⟨configure_of_none_stray hread, fun hstray => ?_⟩
    obtain ⟨b, v, before, after, hl, hfirst, hnone⟩ := exists_split hstray
    exact ⟨b, hfirst, configure_of_split hread hl hfirst.1 hnone⟩

/-- Of four links the second leads to a node that does not exist and is passed
    over; the third stops the import, and the fourth is not looked at. -/
theorem configure_stops_at_third_link :
    let n : LiveNode := ⟨4, "t", "t", [], [], []⟩
    let g : Graph := { lastHandle := 4, nodes := Table.ofList [(4, n)] }
    let s : Snapshot :=
      { graph := g.toJson
        nodes := [{ id := "a", nodeType := "t" }]
        links := Table.ofList [("a", 4), ("b", 9), ("é", 4), ("字", 4)] }
    Graph.ofJson s.graph = .ok g
      ∧ s.FirstStray g "é"
      ∧ (s.upTo "é").links.entries = [("a", 4), ("b", 9)]
      ∧ ({} : Workbench).configure s
        = (.error (.unknownRecord "é"),
          (({} : Workbench).configure (s.upTo "é")).2)
      ∧ (({} : Workbench).configure (s.upTo "é")).1 = .ok () := by
  intro n g s
  have hg : Graph.ofJson s.graph = .ok g := by decide +kernel
  have hstray : s.Stray g "é" :=
    ⟨⟨4, by decide +kernel, by decide +kernel⟩, by simp [s]⟩
  obtain ⟨b, hfirst, hstop, hok⟩ :=
    ((configure_stops {} s).2 g hg).2 ⟨"é", hstray⟩
  have hb : b = "é" := by
    have herror : (({} : Workbench).configure s).1
        = .error (.unknownRecord "é") := by decide +kernel
    rw [hstop] at herror
    cases herror
    rfl
  subst hb
  exact ⟨hg, hfirst, by decide +kernel, hstop, hok⟩

end Workbench
end NodeFlow
