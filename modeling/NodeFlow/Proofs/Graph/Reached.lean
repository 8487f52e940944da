import NodeFlow.Proofs.Graph.Blob

/-! # Graphs that can be reached

    A graph is given one operation after the other, with any handles, places
    and names, and exports of other such graphs to take in.  As long as
    handles are left for new nodes, every graph that is reached is
    well-formed.  An operation is refused exactly where it names a node or a
    port that does not exist, or data that are no graph.  It checks this before
    it changes anything, and so leaves the graph as it was
    (`Reached.wellFormed_and_unchanged`). -/

namespace NodeFlow.Graph

/-- What a graph is asked to do. -/
inductive Operation where
  /-- Add a node under a new handle. -/
  | addNode (nodeType title : String) (inputs outputs : List Port)
  /-- Remove a node with its links. -/
  | removeNode (v : Handle)
  /-- Give a node another title. -/
  | setTitle (v : Handle) (title : String)
  /-- Give a node other ports. -/
  | replacePorts (v : Handle) (inputs outputs : List Port)
  /-- Append an input. -/
  | addInput (v : Handle) (port : Port)
  /-- Remove the first input of a name. -/
  | removeInput (v : Handle) (name : String)
  /-- Let an output hold a value, or none. -/
  | setOutputData (v : Handle) (index : Nat) (value : Option Json)
  /-- Mark a node for drawing. -/
  | mark (v : Handle)
  /-- Take all marks away. -/
  | takeMarks
  /-- Link an output to an input. -/
  | connect (s : Handle) (i : Nat) (t : Handle) (j : Nat)
  /-- Remove everything. -/
  | clear
  /-- Take in a graph in exported form. -/
  | configure (data : Json)

/-- How many nodes an operation adds. -/
def Operation.adds : Operation → Nat
  | .addNode .. => 1
  | _ => 0

/-- What an operation makes of a graph, or why it is refused.  Each operation
    looks for all that it needs before it changes anything, so there is no
    other graph beside an error than the one that there was. -/
def result (g : Graph) : Operation → Except ModelError Graph
  | .addNode nodeType title inputs outputs =>
      .ok (g.addNode nodeType title inputs outputs).2
  | .removeNode v => .ok (g.removeNode v).2
  | .setTitle v title => g.setTitle v title
  | .replacePorts v inputs outputs => g.replacePorts v inputs outputs
  | .addInput v port => g.addInput v port
  | .removeInput v name => (g.removeInput v name).map (·.2)
  | .setOutputData v index value => g.setOutputData v index value
  | .mark v => .ok (g.mark v)
  | .takeMarks => .ok g.takeMarks.2
  | .connect s i t j => g.connect s i t j
  | .clear => .ok {}
  | .configure data => configure data

/-- The graph after an operation: where it is refused, nothing has been changed
    before the refusal. -/
def perform (g : Graph) (o : Operation) : Graph :=
  match g.result o with
  | .ok g' => g'
  | .error _ => g

/-- Whether every node and every port that an operation needs exists, and what
    it takes in can be read. -/
def Admits (g : Graph) : Operation → Prop
  | .setTitle v _ | .replacePorts v _ _ | .addInput v _ | .removeInput v _ =>
      ∃ n, g.nodes.get? v = some n
  | .setOutputData v index _ =>
      ∃ n, g.nodes.get? v = some n ∧ index < n.values.length
  | .connect s i t j =>
      s ≠ t
        ∧ (∃ n, g.nodes.get? s = some n ∧ i < n.outputs.length)
        ∧ (∃ n, g.nodes.get? t = some n ∧ j < n.inputs.length)
  | .configure data => ∃ g', Graph.ofJson data = .ok g'
  | _ => True

/-- The graphs that operations lead to from the empty one, each with a number
    of nodes that have been added on the way.  What is taken in has been
    exported by such a graph; the nodes added there and here may be the same
    ones, so that the greater number counts. -/
inductive Reached : Nat → Graph → Prop where
  /-- Nothing has happened yet. -/
  | empty : Reached 0 {}
  /-- One more operation. -/
  | perform {n : Nat} {g : Graph} (h : Reached n g) (o : Operation)
      (ho : ∀ data, o ≠ .configure data) : Reached (n + o.adds) (g.perform o)
  /-- An import of what a graph exports. -/
  | configure {m n : Nat} {g g' : Graph} (h : Reached n g)
      (h' : Reached m g') : Reached (max n m) (g.perform (.configure g'.toJson))

variable {g g' : Graph} {n : Nat} {o : Operation} {e : ModelError}

/-! ## Refused operations -/

/-- Exactly the operations that find what they need are carried out. -/
theorem exists_result_iff (g : Graph) (o : Operation) :
    (∃ g', g.result o = .ok g') ↔ g.Admits o := by
  -- each operation has one lemma that says when it succeeds
  cases o with
  | setTitle v title =>
      simp only [result, Admits, setTitle_eq_ok_iff]
      rw [exists_comm]
      simp
  | replacePorts v ins outs =>
      simp only [result, Admits, replacePorts_eq_ok_iff]
      rw [exists_comm]
      simp
  | addInput v port =>
      simp only [result, Admits, addInput_eq_ok_iff]
      rw [exists_comm]
      simp
  | removeInput v name =>
      simp only [result, Admits, map_eq_ok_iff]
      -- an input may be missing; only the node has to be there
      constructor
      · rintro ⟨-, ⟨b, g'⟩, hg, -⟩
        obtain ⟨n, hn, -⟩ := removeInput_eq_ok_iff.mp hg
        exact ⟨n, hn⟩
      · rintro ⟨n, hn⟩
        cases hi : n.inputs.findIdx? (fun p => p.name == name) with
        | none =>
            exact ⟨_, _, removeInput_eq_ok_iff.mpr
              ⟨n, hn, Or.inl ⟨hi, rfl, rfl⟩⟩, rfl⟩
        | some slot =>
            exact ⟨_, _, removeInput_eq_ok_iff.mpr
              ⟨n, hn, Or.inr ⟨slot, hi, rfl, rfl⟩⟩, rfl⟩
  | setOutputData v index value =>
      simp only [result, Admits, setOutputData_eq_ok_iff]
      rw [exists_comm]
      simp
  | connect s i t j => simp [result, Admits, connect_eq_ok_iff]
  | configure data =>
      simp only [result, Admits, configure]
      cases Graph.ofJson data <;> simp
  | _ => exact iff_of_true ⟨_, rfl⟩ trivial

theorem perform_of_ok (h : g.result o = .ok g') : g.perform o = g' := by
  unfold perform
  rw [h]

/-- A graph that refuses an operation stays as it was. -/
theorem perform_of_error (h : g.result o = .error e) : g.perform o = g := by
  unfold perform
  rw [h]

theorem not_admits_of_error (h : g.result o = .error e) : ¬ g.Admits o := by
  intro hadm
  obtain ⟨g', hg'⟩ := (exists_result_iff g o).mpr hadm
  rw [h] at hg'
  cases hg'

/-! ## One operation -/

theorem WellFormed.takeMarks (h : g.WellFormed) : g.takeMarks.2.WellFormed :=
  ⟨h.handle, h.bounded, h.lastHandle, h.values, h.links, h.single,
    fun _ hu => by simp [Graph.takeMarks, Table.contains] at hu⟩

/-- Every operation keeps a graph well-formed while handles are left. -/
theorem WellFormed.result (h : g.WellFormed)
    (room : g.lastHandle + o.adds < handleLimit)
    (ho : ∀ data, o ≠ .configure data) (hg : g.result o = .ok g') :
    g'.WellFormed := by
  cases o with
  | addNode nodeType title ins outs =>
      cases hg
      exact h.addNode nodeType title ins outs room
  | removeNode v =>
      cases hg
      exact h.removeNode v
  | setTitle v title => exact h.setTitle hg
  | replacePorts v ins outs => exact h.replacePorts hg
  | addInput v port => exact h.addInput hg
  | removeInput v name =>
      obtain ⟨⟨b, k⟩, hk, rfl⟩ := map_eq_ok_iff.mp hg
      exact h.removeInput hk
  | setOutputData v index value => exact h.setOutputData hg
  | mark v =>
      cases hg
      exact h.mark v
  | takeMarks =>
      cases hg
      exact h.takeMarks
  | connect s i t j => exact h.connect hg
  | clear =>
      cases hg
      exact wellFormed_empty
  | configure data => exact absurd rfl (ho data)

/-- A handle is given only to a node that is added. -/
theorem lastHandle_result (room : g.lastHandle + o.adds < handleLimit)
    (ho : ∀ data, o ≠ .configure data) (hg : g.result o = .ok g') :
    g'.lastHandle ≤ g.lastHandle + o.adds := by
  cases o with
  -- only an addition gives a handle
  | addNode nodeType title ins outs =>
      cases hg
      rw [addNode_snd _ _ _ _ _ room]
      exact Nat.le_refl _
  | removeNode v =>
      cases hg
      unfold Graph.removeNode
      split <;> exact Nat.le_refl _
  | setTitle v title =>
      obtain ⟨n, -, rfl⟩ := setTitle_eq_ok_iff.mp hg
      simp [Operation.adds]
  | replacePorts v ins outs =>
      obtain ⟨n, -, rfl⟩ := replacePorts_eq_ok_iff.mp hg
      simp [Operation.adds]
  | addInput v port =>
      obtain ⟨n, -, rfl⟩ := addInput_eq_ok_iff.mp hg
      simp [Operation.adds]
  | removeInput v name =>
      obtain ⟨⟨b, k⟩, hk, rfl⟩ := map_eq_ok_iff.mp hg
      obtain ⟨n, -, ⟨-, -, rfl⟩ | ⟨slot, -, -, rfl⟩⟩ :=
        removeInput_eq_ok_iff.mp hk
      · exact Nat.le_add_right _ _
      · simp [Operation.adds, closeSlot]
  | setOutputData v index value =>
      obtain ⟨n, -, -, rfl⟩ := setOutputData_eq_ok_iff.mp hg
      exact Nat.le_add_right _ _
  | mark v =>
      cases hg
      simp [Operation.adds]
  | takeMarks =>
      cases hg
      exact Nat.le_add_right _ _
  | connect s i t j =>
      obtain ⟨-, -, -, rfl⟩ := connect_eq_ok_iff.mp hg
      exact Nat.le_add_right _ _
  | clear =>
      cases hg
      exact Nat.zero_le _
  | configure data => exact absurd rfl (ho data)

/-! ## All operations -/

/-- A graph that is reached is well-formed and has given no more handles than
    nodes have been added. -/
theorem Reached.wellFormed (h : Reached n g) (hn : n < handleLimit) :
    g.WellFormed ∧ g.lastHandle ≤ n := by
  induction h with
  | empty => exact ⟨wellFormed_empty, Nat.le_refl _⟩
  | @perform n g _ o ho ih =>
      obtain ⟨hwell, hlast⟩ := ih (by omega)
      cases hg : g.result o with
      | error e =>
          rw [perform_of_error hg]
          exact ⟨hwell, Nat.le_add_right_of_le hlast⟩
      | ok g' =>
          have hsum : g.lastHandle + o.adds ≤ n + o.adds :=
            Nat.add_le_add_right hlast _
          have room : g.lastHandle + o.adds < handleLimit :=
            Nat.lt_of_le_of_lt hsum hn
          rw [perform_of_ok hg]
          exact ⟨hwell.result room ho hg,
            Nat.le_trans (lastHandle_result room ho hg) hsum⟩
  | @configure m n g g' _ _ ih ih' =>
      obtain ⟨hwell, hlast⟩ := ih (by omega)
      obtain ⟨hwell', hlast'⟩ := ih' (by omega)
      -- an export that is read gives the graph back without its values
      rcases hwell'.configure_toJson with hg | ⟨e, hg⟩
      · rw [perform_of_ok (o := .configure g'.toJson) hg]
        exact ⟨hwell'.reread, Nat.le_trans hlast' (Nat.le_max_right n m)⟩
      · rw [perform_of_error (o := .configure g'.toJson) hg]
        exact ⟨hwell, Nat.le_trans hlast (Nat.le_max_left n m)⟩

/-- Every graph that is reached with fewer nodes added than there are handles
    is well-formed; an operation that it refuses needs what is not there, and
    changes nothing. -/
theorem Reached.wellFormed_and_unchanged (h : Reached n g)
    (hn : n < handleLimit) :
    g.WellFormed
      ∧ ∀ o e, g.result o = .error e → ¬ g.Admits o ∧ g.perform o = g :=
  ⟨(h.wellFormed hn).1,
    fun _ _ he => ⟨not_admits_of_error he, perform_of_error he⟩⟩

/-- Two linked nodes are exported and read again, and the source is removed;
    then a link from it is refused. -/
theorem wellFormed_relinked :
    let p : Port := ⟨"x", "number", none⟩
    let g := (((({} : Graph).perform (.addNode "a" "A" [] [p])).perform
      (.addNode "b" "B" [p] [])).perform (.connect 1 0 2 0))
    let g' := (g.perform (.configure g.toJson)).perform (.removeNode 1)
    (Reached 2 g' ∧ 2 < handleLimit ∧ g.links = [⟨1, 0, 2, 0⟩]
      ∧ ∃ e, g'.result (.connect 1 0 2 0) = .error e)
      ∧ g'.WellFormed ∧ g'.perform (.connect 1 0 2 0) = g' := by
  intro p g g'
  have hg : Reached 2 g :=
    ((Reached.empty.perform (.addNode "a" "A" [] [p]) (by simp)).perform
      (.addNode "b" "B" [p] []) (by simp)).perform (.connect 1 0 2 0) (by simp)
  have hg' : Reached 2 g' :=
    (hg.configure hg).perform (.removeNode 1) (by simp)
  have hrefused : ∃ e, g'.result (.connect 1 0 2 0) = .error e := by
    cases hr : g'.result (.connect 1 0 2 0) with
    | error e => exact ⟨e, rfl⟩
    -- the link would need an output of the node that is gone
    | ok k =>
        obtain ⟨-, ⟨n, hn, -⟩, -⟩ := (exists_result_iff _ _).mp ⟨k, hr⟩
        have hgone : g'.nodes.get? 1 = none := by decide +kernel
        rw [hgone] at hn
        cases hn
  obtain ⟨hwell, hstay⟩ := hg'.wellFormed_and_unchanged (by decide)
  obtain ⟨e, he⟩ := hrefused
  exact ⟨⟨hg', by decide, by decide, e, he⟩, hwell, (hstay _ _ he).2⟩

end NodeFlow.Graph
