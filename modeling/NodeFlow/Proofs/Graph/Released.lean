import Mathlib.Logic.Relation
import Mathlib.Tactic.ByContra
import Mathlib.Tactic.Push
import NodeFlow.Proofs.Graph.Order

/-! # Released nodes

    A node is released when everything that is linked into it is live and
    released.  The links of a graph that was read may be anything: there may
    be several alike, they may form cycles, and they may name nodes that do
    not exist.  In the order of execution the released nodes come first, each
    after everything that is linked into it, and those that wait for a cycle
    or for a node that does not exist come last (`order_traverses`).

    `Runs` is the loop of the order without fuel, and it is stuck where a
    count would go below zero.  That it comes to an end says that there is no
    such place, and that the loop needs no fuel. -/

namespace NodeFlow.Graph

variable {g : Graph} {u v : Handle} {done ready out : List Handle}
  {counts : Pending} {links owed : List Link}

/-- Whether everything that is linked into a node is live and released. -/
inductive Released (g : Graph) : Handle → Prop where
  /-- There is nothing else to it. -/
  | intro {v : Handle}
      (live : ∀ l ∈ g.links, l.target = v → g.contains l.source = true)
      (released : ∀ l ∈ g.links, l.target = v → Released g l.source) :
      Released g v

/-! ## The loop without fuel -/

/-- Links are taken off the counts of their targets one by one.  Only a count
    above zero is taken from; the target is queued when none is left. -/
inductive TakesOff :
    List Link → List Handle × Pending → List Handle × Pending → Prop where
  /-- There are no more links. -/
  | nil (state : List Handle × Pending) : TakesOff [] state state
  /-- The target does not exist. -/
  | dead {l : Link} {rest : List Link} {state state' : List Handle × Pending}
      (hl : state.2.get? l.target = none) (h : TakesOff rest state state') :
      TakesOff (l :: rest) state state'
  /-- The count of the target is above zero. -/
  | live {l : Link} {rest : List Link} {ready : List Handle}
      {counts : Pending} {n : Nat} {state' : List Handle × Pending}
      (hl : counts.get? l.target = some (n + 1))
      (h : TakesOff rest
        (if n = 0 then ready ++ [l.target] else ready,
          counts.insert l.target n) state') :
      TakesOff (l :: rest) (ready, counts) state'

/-- The loop comes to an end with the nodes that it has placed. -/
inductive Runs (links : List Link) :
    List Handle → Pending → List Handle → Prop where
  /-- No node is queued. -/
  | done (counts : Pending) : Runs links [] counts []
  /-- The first node of the queue is placed, and the links that start there
      are taken off. -/
  | place {u : Handle} {ready out : List Handle} {counts : Pending}
      {next : List Handle × Pending}
      (hlinks : TakesOff (links.filter (fun l => l.source == u))
        (ready, counts) next)
      (h : Runs links next.1 next.2 out) :
      Runs links (u :: ready) counts (u :: out)

/-- The links are taken off in one way only. -/
theorem TakesOff.unique {state a b : List Handle × Pending}
    (h : TakesOff links state a) (h' : TakesOff links state b) : a = b := by
  induction h with
  | nil => cases h'; rfl
  | dead hl _ ih =>
      cases h' with
      | dead _ h' => exact ih h'
      | live hl' => rw [hl] at hl'; cases hl'
  | live hl _ ih =>
      cases h' with
      | dead hl' => rw [hl] at hl'; cases hl'
      | live hl' h' =>
          rw [hl] at hl'
          cases hl'
          exact ih h'

/-- The loop has one end only. -/
theorem Runs.unique {a b : List Handle} (h : Runs links ready counts a)
    (h' : Runs links ready counts b) : a = b := by
  induction h generalizing b with
  | done => cases h'; rfl
  | place hlinks _ ih =>
      cases h' with
      | place hlinks' h' =>
          cases hlinks.unique hlinks'
          rw [ih h']

/-- A count is as high as there are links left to take off. -/
theorem Placing.takesOff (h : Placing g done owed ready counts) :
    TakesOff owed (ready, counts)
      (owed.foldl Graph.follow (ready, counts)) := by
  induction owed generalizing ready counts with
  | nil => exact .nil _
  | cons l rest ih =>
      rw [List.foldl_cons]
      have hnext := ih h.follow
      cases hlive : g.contains l.target with
      | false =>
          obtain ⟨heq, -⟩ := h.follow_dead hlive
          rw [heq] at hnext ⊢
          refine .dead ?_ hnext
          show counts.get? l.target = none
          rw [h.left, hlive]
          rfl
      | true =>
          -- this link itself is among those that are counted
          have hn := h.left l.target
          rw [if_pos hlive, countP_owed, if_pos rfl, ← Nat.add_assoc] at hn
          refine .live hn ?_
          have heq : Graph.follow (ready, counts) l
              = (if waiting g.links done l.target
                    + rest.countP (fun k => k.target == l.target) = 0 then
                  ready ++ [l.target] else ready,
                counts.insert l.target (waiting g.links done l.target
                  + rest.countP (fun k => k.target == l.target))) := by
            unfold Graph.follow
            simp only [hn, Nat.add_sub_cancel, Nat.add_eq_right]
          rwa [← heq]

/-- With fuel for every node the loop comes to its end. -/
theorem Placing.runs (fuel : Nat) (h : Placing g done [] ready counts)
    (hfuel : g.nodes.size ≤ done.length + fuel) :
    Runs g.links ready counts (Graph.visit g.links fuel ready counts) := by
  induction fuel generalizing done ready counts with
  | zero =>
      -- all nodes have been placed, and so none is queued
      have hle := Table.length_le_size (t := g.nodes) h.nodup
        (fun v hv => h.live hv)
      have hnil : ready = [] := by
        rw [List.length_append] at hle
        exact List.eq_nil_of_length_eq_zero (by omega)
      subst hnil
      exact .done counts
  | succ fuel ih =>
      cases ready with
      | nil => exact .done counts
      | cons u rest =>
          rw [Graph.visit]
          refine .place h.place.takesOff (ih h.place.foldl_follow ?_)
          rw [List.length_append, List.length_singleton]
          omega

/-- The nodes that nothing is linked into. -/
def unfed (g : Graph) : List Handle :=
  (g.pending.entries.filter (fun e => e.2 == 0)).map (·.1)

theorem runs_iff : Runs g.links g.unfed g.pending out ↔ out = g.placed := by
  have hruns : Runs g.links g.unfed g.pending g.placed :=
    g.placing_start.runs g.nodes.size (by simp)
  exact ⟨fun h => h.unique hruns, fun h => h ▸ hruns⟩

/-! ## What the loop places -/

theorem Released.mem_placed (h : g.Released v) (hv : g.contains v = true) :
    v ∈ g.placed := by
  induction h with
  | intro live _ ih =>
      exact mem_placed_iff.mpr
        ⟨hv, fun l hl ht => ih l hl ht (live l hl ht)⟩

theorem released_of_mem_placed (hv : v ∈ g.placed) : g.Released v := by
  -- what is linked into a placed node has been placed before it
  refine g.sourced_placed.induction (P := g.Released) ?_ v hv
  intro v hv hall
  have hsources := (mem_placed_iff.mp hv).2
  exact .intro
    (fun l hl ht => (mem_placed_iff.mp (hsources l hl ht)).1) hall

/-! ## What is left over -/

/-- Whether a node is on a cycle, or something that does not exist is linked
    into it. -/
def Blocked (g : Graph) (v : Handle) : Prop :=
  Relation.TransGen g.Feeds v v
    ∨ ∃ l ∈ g.links, l.target = v ∧ g.contains l.source = false

/-- A released node is fed by released nodes only. -/
theorem Released.of_feeds (h : g.Released v)
    (hfeeds : Relation.ReflTransGen g.Feeds u v) : g.Released u := by
  induction hfeeds with
  | refl => exact h
  | tail _ hone ih =>
      obtain ⟨l, hl, rfl, rfl⟩ := hone
      cases h with
      | intro _ released => exact ih (released l hl rfl)

/-- A released node is on no cycle. -/
theorem Released.not_transGen (h : g.Released v) :
    ¬ Relation.TransGen g.Feeds v v := by
  induction h with
  | @intro v _ _ ih =>
      intro hcycle
      -- the node before it on the cycle is on a cycle as well
      obtain ⟨u, hvu, hone⟩ := Relation.TransGen.tail'_iff.mp hcycle
      have hfeeds := hone
      obtain ⟨l, hl, rfl, rfl⟩ := hone
      exact ih l hl rfl (.head' hfeeds hvu)

/-- A node is released unless it is blocked or behind a blocked one. -/
theorem not_released_iff :
    ¬ g.Released v ↔
      ∃ u, g.Blocked u ∧ Relation.ReflTransGen g.Feeds u v := by
  constructor
  · intro hnot
    by_contra hnone
    push Not at hnone
    -- what feeds the node is neither on a cycle nor fed by what is not there
    let r : Handle → Handle → Prop := fun x y =>
      Relation.TransGen g.Feeds x y ∧ Relation.ReflTransGen g.Feeds y v
    have hlive : ∀ l ∈ g.links, Relation.ReflTransGen g.Feeds l.target v →
        g.contains l.source = true := by
      intro l hl hfeeds
      by_contra hdead
      exact hnone l.target
        (Or.inr ⟨l, hl, rfl, Bool.not_eq_true _ ▸ hdead⟩) hfeeds
    -- so among the live nodes that are not released is one that none feeds
    have hreleased : ∀ u, g.contains u = true →
        Relation.ReflTransGen g.Feeds u v → g.Released u := by
      intro u hu hfeeds
      by_contra hout
      classical
      have hleft : g.nodes.keys.filter (fun x => decide
          (¬ g.Released x ∧ Relation.ReflTransGen g.Feeds x v)) ≠ [] := by
        refine List.ne_nil_of_mem (a := u) (List.mem_filter.mpr ⟨?_, ?_⟩)
        · exact Table.mem_keys_iff.mpr (contains_iff.mp hu)
        · exact decide_eq_true ⟨hout, hfeeds⟩
      obtain ⟨m, hm, hmin⟩ := exists_minimal (r := r)
        (fun x hx => hnone x (Or.inl hx.1) hx.2)
        (fun _ _ _ hxy hyz => ⟨hxy.1.trans hyz.1, hyz.2⟩) hleft
      obtain ⟨hm, hmout⟩ := of_decide_eq_true (List.mem_filter.mp hm).2
      refine hm (.intro (fun l hl ht => hlive l hl (ht ▸ hmout))
        (fun l hl ht => ?_))
      have hone : g.Feeds l.source m := ⟨l, hl, rfl, ht⟩
      have hsource := hlive l hl (ht ▸ hmout)
      by_contra hnotsource
      refine hmin l.source (List.mem_filter.mpr ⟨?_, ?_⟩) ⟨.single hone, hmout⟩
      · exact Table.mem_keys_iff.mpr (contains_iff.mp hsource)
      · exact decide_eq_true ⟨hnotsource, .head hone hmout⟩
    refine hnot (.intro (fun l hl ht => hlive l hl (ht ▸ .refl))
      (fun l hl ht => ?_))
    have hone : g.Feeds l.source v := ⟨l, hl, rfl, ht⟩
    exact hreleased l.source (hlive l hl (ht ▸ .refl)) (.single hone)
  · rintro ⟨u, hblocked, hfeeds⟩ hrel
    have hu := hrel.of_feeds hfeeds
    rcases hblocked with hcycle | ⟨l, hl, rfl, hdead⟩
    · exact hu.not_transGen hcycle
    · cases hu with
      | intro live _ =>
          rw [live l hl rfl] at hdead
          cases hdead

/-! ## The order of every graph -/

/-- What is said of the order of execution of a graph. -/
structure Traverses (g : Graph) (order : List Handle) : Prop where
  /-- No node comes twice. -/
  nodup : order.Nodup
  /-- Exactly the live nodes come. -/
  mem : ∀ v, v ∈ order ↔ g.contains v = true
  /-- First come those that the loop places, which are the released ones, and
      then all others in ascending order. -/
  split : ∃ first last, order = first ++ last
    ∧ (∀ out, Runs g.links g.unfed g.pending out ↔ out = first)
    ∧ (∀ v ∈ first, g.Released v)
    ∧ (∀ v ∈ last, ¬ g.Released v)
    ∧ last.Pairwise (· < ·)
  /-- The others are those on a cycle or fed by what does not exist, and those
      behind them. -/
  blocked : ∀ v, ¬ g.Released v ↔
    ∃ u, g.Blocked u ∧ Relation.ReflTransGen g.Feeds u v
  /-- A link between released nodes leads from a node to a later one. -/
  forward : ∀ l ∈ g.links, g.contains l.target = true →
    g.Released l.target → [l.source, l.target].Sublist order
  /-- So does every link, if links join live nodes and form no cycle. -/
  acyclic : g.Acyclic →
    (∀ l ∈ g.links, g.contains l.source = true
      ∧ g.contains l.target = true) →
    ∀ l ∈ g.links, [l.source, l.target].Sublist order

/-- What is linked into a node of a list comes before it. -/
theorem Sourced.sublist {order : List Handle} {l : Link}
    (h : Sourced links order) (hl : l ∈ links) (ht : l.target ∈ order) :
    [l.source, l.target].Sublist order := by
  obtain ⟨before, after, rfl⟩ := List.append_of_mem ht
  have hs := h before l.target after rfl l hl rfl
  exact (List.singleton_sublist.mpr hs).append
    (List.singleton_sublist.mpr List.mem_cons_self)

theorem sublist_order {l : Link} (hl : l ∈ g.links)
    (ht : g.contains l.target = true) (hrel : g.Released l.target) :
    [l.source, l.target].Sublist g.order := by
  rw [order_eq]
  exact (g.sourced_placed.sublist hl (hrel.mem_placed ht)).trans
    (List.sublist_append_left _ _)

/-- Without cycles every node whose links are those of live nodes is
    released. -/
theorem Acyclic.released (h : g.Acyclic)
    (hlinks : ∀ l ∈ g.links, g.contains l.source = true) (v : Handle) :
    g.Released v := by
  by_contra hnot
  obtain ⟨u, hcycle | ⟨l, hl, -, hdead⟩, -⟩ := not_released_iff.mp hnot
  · exact h u hcycle
  · rw [hlinks l hl] at hdead
    cases hdead

/-- Whatever the links of a graph are, the loop comes to its end without a
    count going below zero, and the order of execution is what it should
    be. -/
theorem order_traverses (g : Graph) : g.Traverses g.order where
  nodup := g.nodup_order
  mem _ := mem_order_iff
  split := by
    refine ⟨_, _, g.order_eq, fun _ => runs_iff,
      fun _ => released_of_mem_placed, fun v hv hrel => ?_,
      g.nodes.keys_ascending.filter _⟩
    obtain ⟨hlive, hout⟩ := List.mem_filter.mp hv
    have hmem := hrel.mem_placed
      (contains_iff.mpr (Table.mem_keys_iff.mp hlive))
    simp [hmem] at hout
  blocked _ := not_released_iff
  forward _ hl ht hrel := sublist_order hl ht hrel
  acyclic hacyclic hlinks l hl :=
    sublist_order hl (hlinks l hl).2
      (hacyclic.released (fun l hl => (hlinks l hl).1) l.target)

/-- Of five nodes 4 comes before 2, to which it is linked twice; 1 and 3 are
    on a cycle, and 5 waits for a node that does not exist. -/
example :
    let n : LiveNode := ⟨0, "", "", [], [], []⟩
    let g : Graph :=
      { nodes := Table.ofList [(1, n), (2, n), (3, n), (4, n), (5, n)]
        links := [⟨4, 0, 2, 0⟩, ⟨4, 0, 2, 0⟩, ⟨1, 0, 3, 0⟩, ⟨3, 0, 1, 0⟩,
          ⟨9, 0, 5, 0⟩] }
    g.order = [4, 2, 1, 3, 5] := by decide

end NodeFlow.Graph
