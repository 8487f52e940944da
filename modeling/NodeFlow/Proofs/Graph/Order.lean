import NodeFlow.Graph.Order
import NodeFlow.Proofs.Graph.WellFormed
import NodeFlow.Proofs.Lists

/-! # The order of execution

    Nodes are placed one after the other.  `Placing` is the invariant of the
    loops: the count of a node is how many links into it start at nodes that
    have not been placed, and a node is placed or queued exactly when its
    count is zero.  `Sourced` says that a node comes after everything that is
    linked into it; it holds of the nodes placed, in every graph, and of the
    whole order where links form no cycle and none comes from a node that is
    not there (`Grounded.sourced_order`). -/

namespace NodeFlow.Graph

variable {g g' : Graph} {u v : Handle} {done ready : List Handle}
  {counts : Pending} {links owed : List Link}

/-! ## Counting links -/

/-- How many links into a node start at none of the nodes given. -/
def waiting (links : List Link) (done : List Handle) (v : Handle) : Nat :=
  links.countP (fun l => l.target == v && !done.contains l.source)

/-- A node waits for nothing exactly if all that is linked into it is done. -/
theorem waiting_eq_zero_iff :
    waiting links done v = 0 ↔
      ∀ l ∈ links, l.target = v → l.source ∈ done := by
  unfold waiting
  rw [List.countP_eq_zero]
  constructor
  · intro h l hl ht
    have hnot := h l hl
    simpa [ht] using hnot
  · intro h l hl hboth
    simp only [Bool.and_eq_true, beq_iff_eq] at hboth
    simp [h l hl hboth.1] at hboth

/-- The links that a node was waited for are those that start at it. -/
theorem waiting_place (hu : u ∉ done) :
    waiting links done v
      = waiting links (done ++ [u]) v
        + (links.filter (fun l => l.source == u)).countP
            (fun l => l.target == v) := by
  unfold waiting
  induction links with
  | nil => rfl
  | cons l rest ih =>
      simp only [List.countP_cons, List.filter_cons]
      rw [ih]
      by_cases hs : l.source = u
      · -- the link starts at the node: it was waited for until now
        have hnot : l.source ∉ done := hs ▸ hu
        by_cases ht : l.target = v
        · simp [hs, ht, hu]
          omega
        · simp [hs, ht]
      · by_cases ht : l.target = v
        · simp [hs, ht]
          omega
        · simp [hs, ht]

/-- Every link is counted at its target, if that is live. -/
theorem get?_countLinks (links : List Link) (t : Pending) (v : Handle) :
    (links.foldl (fun t l => t.modify l.target (· + 1)) t).get? v
      = (t.get? v).map (· + links.countP (fun l => l.target == v)) := by
  induction links generalizing t with
  | nil => simp
  | cons l rest ih =>
      rw [List.foldl_cons, ih, Table.get?_modify, List.countP_cons]
      by_cases hv : v = l.target
      · rw [if_pos hv, ← hv, Option.map_map]
        congr 1
        funext n
        simp only [Function.comp_apply, hv, beq_self_eq_true, if_true]
        omega
      · have hne : ¬ l.target = v := fun heq => hv heq.symm
        rw [if_neg hv]
        simp [hne]

/-- At first every node waits for each of the links into it. -/
theorem get?_pending (g : Graph) (v : Handle) :
    g.pending.get? v
      = if g.contains v then some (waiting g.links [] v) else none := by
  unfold pending contains Table.contains waiting
  rw [get?_countLinks, Table.get?_mapValues]
  cases g.nodes.get? v <;> simp

/-! ## Placing nodes -/

/-- What holds while nodes are placed: `done` are the nodes placed, `owed` the
    links of the last one that have not been followed, `ready` the nodes
    queued. -/
structure Placing (g : Graph) (done : List Handle) (owed : List Link)
    (ready : List Handle) (counts : Pending) : Prop where
  /-- A count tells how many links are left. -/
  left : ∀ v, counts.get? v
    = if g.contains v then
        some (waiting g.links done v + owed.countP (fun l => l.target == v))
      else none
  /-- No node is placed or queued twice. -/
  nodup : (done ++ ready).Nodup
  /-- A node is placed or queued when no link is left. -/
  mem : ∀ v, v ∈ done ++ ready ↔ counts.get? v = some 0

/-- Whether each node of a list comes after what is linked into it. -/
def Sourced (links : List Link) (l : List Handle) : Prop :=
  ∀ before v after, l = before ++ v :: after →
    ∀ k ∈ links, k.target = v → k.source ∈ before

/-- Only live nodes are placed or queued. -/
theorem Placing.live (h : Placing g done owed ready counts)
    (hv : v ∈ done ++ ready) : g.contains v = true := by
  have hzero := (h.mem v).mp hv
  rw [h.left] at hzero
  split at hzero
  · assumption
  · cases hzero

/-- At first the nodes without links into them are queued. -/
theorem placing_start (g : Graph) :
    Placing g [] []
      ((g.pending.entries.filter (fun e => e.2 == 0)).map (·.1))
      g.pending where
  left v := by simp [get?_pending]
  nodup := by
    rw [List.nil_append]
    exact g.pending.keys_nodup.sublist (List.filter_sublist.map _)
  mem v := by
    rw [List.nil_append, ← Table.mem_entries_iff, List.mem_map]
    constructor
    · rintro ⟨e, he, rfl⟩
      obtain ⟨he, hzero⟩ := List.mem_filter.mp he
      rwa [← beq_iff_eq.mp hzero]
    · intro he
      exact ⟨(v, 0), List.mem_filter.mpr ⟨he, rfl⟩, rfl⟩

/-- A link that is owed counts at its target. -/
theorem countP_owed (l : Link) (owed : List Link) (v : Handle) :
    (l :: owed).countP (fun k => k.target == v)
      = owed.countP (fun k => k.target == v)
        + if l.target = v then 1 else 0 := by
  simp [List.countP_cons]

/-- A link to a node that does not exist is passed over. -/
theorem Placing.follow_dead {l : Link}
    (h : Placing g done (l :: owed) ready counts)
    (hdead : g.contains l.target = false) :
    Graph.follow (ready, counts) l = (ready, counts)
      ∧ Placing g done owed ready counts := by
  have hnone : counts.get? l.target = none := by
    rw [h.left, hdead]
    rfl
  refine ⟨?_, fun v => ?_, h.nodup, h.mem⟩
  · unfold Graph.follow
    simp only [hnone]
  · rw [h.left, countP_owed]
    by_cases hv : l.target = v
    · rw [← hv, hdead]
      rfl
    · rw [if_neg hv, Nat.add_zero]

/-- The target of a link that is owed is not queued yet. -/
theorem Placing.target_not_mem {l : Link}
    (h : Placing g done (l :: owed) ready counts) :
    l.target ∉ done ++ ready := by
  rw [h.mem, h.left, countP_owed, if_pos rfl]
  split
  · intro hzero
    have := Option.some.inj hzero
    omega
  · intro hzero
    cases hzero

/-- The target of a link is queued with the last link that is owed to it. -/
theorem Placing.follow_live {l : Link} {n : Nat}
    (h : Placing g done (l :: owed) ready counts)
    (hn : counts.get? l.target = some (n + 1)) :
    Placing g done owed (if n = 0 then ready ++ [l.target] else ready)
      (counts.insert l.target n) := by
  have hout := h.target_not_mem
  refine ⟨fun v => ?_, ?_, fun v => ?_⟩
  · rw [Table.get?_insert]
    by_cases hv : v = l.target
    · -- one link less is owed, and the count is one less
      have hleft := h.left l.target
      rw [hn, countP_owed, if_pos rfl] at hleft
      rw [if_pos hv, hv]
      split at hleft
      · rename_i hlive
        rw [if_pos hlive]
        have := Option.some.inj hleft
        exact congrArg some (by omega)
      · cases hleft
    · have hne : ¬ l.target = v := fun heq => hv heq.symm
      rw [if_neg hv, h.left, countP_owed, if_neg hne, Nat.add_zero]
  · split
    · rw [← List.append_assoc]
      refine List.nodup_append.mpr ⟨h.nodup, by simp, ?_⟩
      intro a ha b hb heq
      rw [List.mem_singleton.mp hb] at heq
      exact hout (heq ▸ ha)
    · exact h.nodup
  · rw [Table.get?_insert]
    by_cases hv : v = l.target
    · rw [if_pos hv, hv]
      by_cases hzero : n = 0
      · simp [hzero]
      · rw [if_neg hzero]
        exact iff_of_false hout (fun heq => hzero (Option.some.inj heq))
    · rw [if_neg hv, ← h.mem]
      split
      · simp [hv]
      · rfl

/-- Following a link keeps the counts right. -/
theorem Placing.follow {l : Link}
    (h : Placing g done (l :: owed) ready counts) :
    Placing g done owed (Graph.follow (ready, counts) l).1
      (Graph.follow (ready, counts) l).2 := by
  cases hlive : g.contains l.target with
  | false =>
      obtain ⟨heq, hplacing⟩ := h.follow_dead hlive
      rw [heq]
      exact hplacing
  | true =>
      have hn := h.left l.target
      rw [if_pos hlive, countP_owed, if_pos rfl, ← Nat.add_assoc] at hn
      have hplacing := h.follow_live hn
      unfold Graph.follow
      simp only [hn, Nat.add_sub_cancel]
      simpa using hplacing

/-- By induction over the links of the node placed last: once all are
    followed, none is owed. -/
theorem Placing.foldl_follow (h : Placing g done owed ready counts) :
    Placing g done [] (owed.foldl Graph.follow (ready, counts)).1
      (owed.foldl Graph.follow (ready, counts)).2 := by
  induction owed generalizing ready counts with
  | nil => exact h
  | cons l rest ih => exact ih h.follow

/-- The node that comes next is placed and its links are followed. -/
theorem Placing.place (h : Placing g done [] (u :: ready) counts) :
    Placing g (done ++ [u]) (g.links.filter (fun l => l.source == u)) ready
      counts where
  left v := by
    have hu : u ∉ done := by
      have hnodup := h.nodup
      rw [List.nodup_append] at hnodup
      exact fun hu => hnodup.2.2 u hu u (by simp) rfl
    rw [h.left, waiting_place hu]
    simp
  nodup := by simpa using h.nodup
  mem v := by simpa using h.mem v

/-- What is linked into a node that comes next has been placed. -/
theorem Placing.sourced (h : Placing g done [] (u :: ready) counts)
    (hsourced : Sourced g.links done) : Sourced g.links (done ++ [u]) := by
  have hzero : waiting g.links done u = 0 := by
    have hmem := (h.mem u).mp (by simp)
    have hlive := h.live (v := u) (by simp)
    rw [h.left, if_pos hlive] at hmem
    simpa using hmem
  intro before v after heq k hk ht
  -- either the node is the one that comes next, or it has been placed
  rcases List.eq_nil_or_concat after with rfl | ⟨init, last, rfl⟩
  · obtain ⟨rfl, hv⟩ := List.append_inj' heq rfl
    cases hv
    exact waiting_eq_zero_iff.mp hzero k hk ht
  · rw [List.concat_eq_append, ← List.cons_append, ← List.append_assoc] at heq
    exact hsourced before v init (List.append_inj' heq rfl).1 k hk ht

/-- With fuel for every node nothing stays queued. -/
theorem Placing.visit (fuel : Nat) (h : Placing g done [] ready counts)
    (hsourced : Sourced g.links done)
    (hfuel : g.nodes.size ≤ done.length + fuel) :
    ∃ counts', Placing g (done ++ visit g.links fuel ready counts) [] [] counts'
      ∧ Sourced g.links (done ++ visit g.links fuel ready counts) := by
  induction fuel generalizing done ready counts with
  | zero =>
      -- all nodes have been placed, and none is placed twice
      have hle := Table.length_le_size (t := g.nodes) h.nodup
        (fun v hv => h.live hv)
      have hnil : ready = [] := by
        rw [List.length_append] at hle
        exact List.eq_nil_of_length_eq_zero (by omega)
      subst hnil
      rw [Graph.visit, List.append_nil]
      exact ⟨counts, h, hsourced⟩
  | succ fuel ih =>
      cases ready with
      | nil =>
          rw [Graph.visit, List.append_nil]
          exact ⟨counts, h, hsourced⟩
      | cons u rest =>
          have hnext := ih h.place.foldl_follow (h.sourced hsourced) (by
            rw [List.length_append, List.length_singleton]
            omega)
          rw [Graph.visit]
          simpa using hnext

/-! ## The order of every graph -/

/-- The nodes that come because nothing is waited for any more. -/
def placed (g : Graph) : List Handle :=
  visit g.links g.nodes.size
    ((g.pending.entries.filter (fun e => e.2 == 0)).map (·.1)) g.pending

/-- First come the nodes placed, and then all others, least handle first. -/
theorem order_eq (g : Graph) :
    g.order = g.placed ++ g.nodes.keys.filter (fun v => !g.placed.contains v) :=
  rfl

/-- Once nothing is queued any more, the nodes placed each come after what is
    linked into them. -/
theorem exists_placing (g : Graph) :
    ∃ counts, Placing g g.placed [] [] counts ∧ Sourced g.links g.placed := by
  -- the fuel of the loop is the number of nodes
  have hnone : Sourced g.links [] := by
    intro before v after heq
    simp at heq
  exact g.placing_start.visit g.nodes.size hnone (by simp)

/-- No node is placed twice. -/
theorem nodup_placed (g : Graph) : g.placed.Nodup := by
  obtain ⟨counts, h, -⟩ := g.exists_placing
  simpa using h.nodup

/-- What is linked into a placed node is placed before it. -/
theorem sourced_placed (g : Graph) : Sourced g.links g.placed := by
  obtain ⟨counts, -, hsourced⟩ := g.exists_placing
  exact hsourced

/-- A node is placed once everything that is linked into it has been. -/
theorem mem_placed_iff :
    v ∈ g.placed ↔ g.contains v = true
      ∧ ∀ l ∈ g.links, l.target = v → l.source ∈ g.placed := by
  obtain ⟨counts, h, -⟩ := g.exists_placing
  have hmem := h.mem v
  rw [List.append_nil, h.left, List.countP_nil, Nat.add_zero] at hmem
  rw [hmem, ← waiting_eq_zero_iff]
  by_cases hlive : g.contains v = true <;> simp [hlive]

/-- The order names exactly the live nodes. -/
theorem mem_order_iff : v ∈ g.order ↔ g.contains v = true := by
  rw [order_eq, List.mem_append, List.mem_filter, Table.mem_keys_iff,
    ← contains_iff]
  by_cases hv : v ∈ g.placed
  · exact iff_of_true (Or.inl hv) (mem_placed_iff.mp hv).1
  · simp [hv]

/-- The order names none of them twice. -/
theorem nodup_order (g : Graph) : g.order.Nodup := by
  rw [order_eq, List.nodup_append]
  refine ⟨g.nodup_placed, g.nodes.keys_nodup.filter _, ?_⟩
  intro u hu v hv heq
  have hnot := (List.mem_filter.mp hv).2
  rw [heq] at hu
  simp [hu] at hnot

/-- The order does not depend on what outputs hold. -/
theorem order_blank (g : Graph) : g.blank.order = g.order := by
  have hkeys : g.blank.nodes.keys = g.nodes.keys := by
    unfold blank Table.mapValues Table.keys
    simp [Function.comp_def]
  have hsize : g.blank.nodes.size = g.nodes.size := by
    unfold blank Table.mapValues Table.size
    simp
  have hpending : g.blank.pending = g.pending := by
    refine Table.ext_get? (fun v => ?_)
    have hlive : g.blank.contains v = g.contains v := by
      simp [contains, Table.contains, blank]
    rw [get?_pending, get?_pending, hlive]
    rfl
  rw [order_eq, order_eq, placed, placed, hkeys, hsize, hpending]
  rfl

/-- Values and marks have no say in the order. -/
theorem order_eq_of_blank (h : g'.blank = g.blank) : g'.order = g.order := by
  rw [← order_blank g', h, order_blank]

/-! ## Links without cycles -/

/-- Whether a link leads from one node to another. -/
def Feeds (g : Graph) (u v : Handle) : Prop :=
  ∃ l ∈ g.links, l.source = u ∧ l.target = v

/-- Whether links form no cycle. -/
def Acyclic (g : Graph) : Prop := ∀ v, ¬ Relation.TransGen g.Feeds v v

/-- Whether links form a cycle depends on which there are, not on their
    order. -/
theorem Acyclic.congr (h : g.Acyclic)
    (hlinks : ∀ l, l ∈ g'.links ↔ l ∈ g.links) : g'.Acyclic := by
  have hfeeds : g'.Feeds = g.Feeds := by
    funext u v
    simp [Feeds, hlinks]
  intro v
  rw [hfeeds]
  exact h v

/-- Links that lead upwards by any count of the nodes form no cycle. -/
theorem acyclic_of_ascending (count : Handle → Nat)
    (h : ∀ l ∈ g.links, count l.source < count l.target) : g.Acyclic := by
  have hlt : ∀ u v, Relation.TransGen g.Feeds u v → count u < count v := by
    intro u v huv
    induction huv with
    | single hfeeds =>
        obtain ⟨l, hl, rfl, rfl⟩ := hfeeds
        exact h l hl
    | tail _ hfeeds ih =>
        obtain ⟨l, hl, rfl, rfl⟩ := hfeeds
        exact Nat.lt_trans ih (h l hl)
  exact fun v hv => Nat.lt_irrefl (count v) (hlt v v hv)

/-- Whether links into live nodes come from live nodes. -/
def Grounded (g : Graph) : Prop :=
  ∀ l ∈ g.links, g.contains l.target = true → g.contains l.source = true

instance (g : Graph) : Decidable g.Grounded :=
  inferInstanceAs (Decidable (∀ l ∈ g.links, _))

/-- Every link of a well-formed graph comes from a live node. -/
theorem WellFormed.grounded (h : g.WellFormed) : g.Grounded := by
  intro l hl _
  obtain ⟨n, hn, -⟩ := (h.links l hl).output
  exact contains_iff.mpr ⟨n, hn⟩

/-- Without cycles every node comes because nothing is waited for. -/
theorem Grounded.mem_placed (h : g.Grounded) (hacyclic : g.Acyclic)
    (hv : g.contains v = true) : v ∈ g.placed := by
  apply Classical.byContradiction
  intro hout
  -- among the nodes left over is one that none of them leads to
  have hleft : g.nodes.keys.filter (fun v => !g.placed.contains v) ≠ [] := by
    refine List.ne_nil_of_mem (a := v) (List.mem_filter.mpr ⟨?_, by simpa⟩)
    exact Table.mem_keys_iff.mpr (contains_iff.mp hv)
  obtain ⟨m, hm, hmin⟩ := exists_minimal
    (r := Relation.TransGen g.Feeds) hacyclic
    (fun _ _ _ => Relation.TransGen.trans) hleft
  obtain ⟨hlive, hnot⟩ := List.mem_filter.mp hm
  have hlive : g.contains m = true :=
    contains_iff.mpr (Table.mem_keys_iff.mp hlive)
  have hnot : m ∉ g.placed := by simpa using hnot
  refine hnot (mem_placed_iff.mpr ⟨hlive, fun l hl ht => ?_⟩)
  apply Classical.byContradiction
  intro hsource
  have hfrom : g.contains l.source = true := h l hl (ht ▸ hlive)
  refine hmin l.source (List.mem_filter.mpr
    ⟨Table.mem_keys_iff.mpr (contains_iff.mp hfrom), by simpa using hsource⟩) ?_
  exact .single ⟨l, hl, rfl, ht⟩

/-- Without cycles every node comes after everything that is linked into
    it. -/
theorem Grounded.sourced_order (h : g.Grounded) (hacyclic : g.Acyclic) :
    Sourced g.links g.order := by
  have hrest : g.nodes.keys.filter (fun v => !g.placed.contains v) = [] := by
    refine List.filter_eq_nil_iff.mpr (fun v hv => ?_)
    have hlive := contains_iff.mpr (Table.mem_keys_iff.mp hv)
    simpa using h.mem_placed hacyclic hlive
  rw [order_eq, hrest, List.append_nil]
  exact g.sourced_placed

/-! ## Lists that links lead through in one direction -/

/-- Whether no link leads from a node of a list to an earlier one. -/
def Forward (links : List Link) (l : List Handle) : Prop :=
  l.Pairwise (fun u v => ∀ k ∈ links, k.source = v → k.target ≠ u)

/-- In a list in which each node comes after what is linked into it, links
    lead forward. -/
theorem Sourced.forward {l : List Handle} (h : Sourced links l)
    (hnodup : l.Nodup) : Forward links l := by
  -- by induction on what is left of the list, for whatever comes before it
  have hsuffix : ∀ rest before, before ++ rest = l → Forward links rest := by
    intro rest
    induction rest with
    | nil => exact fun _ _ => List.Pairwise.nil
    | cons u rest ih =>
        intro before heq
        refine (ih (before ++ [u]) (by simpa using heq)).cons ?_
        intro v hv k hk hs ht
        have hbefore := h before u rest heq.symm k hk ht
        rw [← heq, List.nodup_append] at hnodup
        exact hnodup.2.2 k.source hbefore v (List.mem_cons_of_mem u hv) hs
  exact hsuffix l [] rfl

/-- What passes on over links, to a node from all that are linked into it,
    holds of every node of a list. -/
theorem Sourced.induction {l : List Handle} {P : Handle → Prop}
    (h : Sourced links l)
    (hstep : ∀ v ∈ l, (∀ k ∈ links, k.target = v → P k.source) → P v) :
    ∀ v ∈ l, P v := by
  -- from the front on: what is linked into a node comes before it
  have hprefix : ∀ rest before, before ++ rest = l →
      (∀ v ∈ before, P v) → ∀ v ∈ l, P v := by
    intro rest
    induction rest with
    | nil =>
        intro before heq hall
        rwa [← heq, List.append_nil]
    | cons u rest ih =>
        intro before heq hall
        refine ih (before ++ [u]) (by simpa using heq) (fun v hv => ?_)
        rcases List.mem_append.mp hv with hv | hv
        · exact hall v hv
        · rw [List.mem_singleton.mp hv]
          refine hstep u (by simp [← heq]) (fun k hk ht => ?_)
          exact hall k.source (h before u rest heq.symm k hk ht)
  exact hprefix l [] rfl (by simp)

end NodeFlow.Graph
