import NodeFlow.Graph.Basic

/-! # The order of execution

    Nodes run after the nodes that they take values from.  Of the nodes that
    could come next, the one that has been ready longest does; nodes that are
    ready from the start come in ascending order, and nodes on a cycle, or
    behind one, come last in ascending order. -/

namespace NodeFlow.Graph

/-- How many links into each node start at a node that has not come yet. -/
abbrev Pending : Type := Table Handle Nat

/-- How many links end at each live node. -/
def pending (g : Graph) : Pending :=
  g.links.foldl (fun t l => t.modify l.target (· + 1))
    (g.nodes.mapValues (fun _ => 0))

/-- Take a link off the count of its target; the target becomes ready when
    none is left. -/
def follow (state : List Handle × Pending) (l : Link) :
    List Handle × Pending :=
  match state.2.get? l.target with
  | none => state
  | some n =>
      (if n = 1 then state.1 ++ [l.target] else state.1,
        state.2.insert l.target (n - 1))

/-- The nodes that come one after the other from a queue of ready ones. -/
def visit (links : List Link) : Nat → List Handle → Pending → List Handle
  | 0, _, _ => []
  | _ + 1, [], _ => []
  | fuel + 1, node :: ready, pending =>
      let next :=
        (links.filter (fun l => l.source == node)).foldl follow
          (ready, pending)
      node :: visit links fuel next.1 next.2

/-- The live nodes in order of execution. -/
def order (g : Graph) : List Handle :=
  let counts := g.pending
  let ready := (counts.entries.filter (fun e => e.2 == 0)).map (·.1)
  let placed := visit g.links g.nodes.size ready counts
  placed ++ g.nodes.keys.filter (fun h => !placed.contains h)

end NodeFlow.Graph
