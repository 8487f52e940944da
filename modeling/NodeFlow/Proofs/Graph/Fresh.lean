import NodeFlow.Proofs.Graph.Legible
import NodeFlow.Proofs.Graph.Reached

/-! # New nodes in a graph

    A new node should get a handle that names no node and that no addition has
    given since the graph was emptied or read last, and everything that is
    there should stay (`Creates`).  What is read decides where the handles
    continue, and it may name the last handle that there is.

    The handles given can be counted from the operations alone: an addition
    counts one, and an import that is taken in sets the count to the greatest
    number in it.  In a run of operations, whatever is imported on the way,
    every addition creates a node exactly if the count stays within the
    handles that there are (`additions_create_iff`).  The addition after that
    starts over with handle 0 and puts its node in the place of the one that
    has it. -/

namespace NodeFlow.Graph

/-- Whether an addition creates a node and destroys nothing, where `issued`
    are the handles given before. -/
structure Creates (g : Graph) (issued : List Handle) (nodeType title : String)
    (ins outs : List Port) : Prop where
  /-- The handle is the next number, without overflow. -/
  next : (g.addNode nodeType title ins outs).1 = g.lastHandle + 1
  /-- It names no node so far. -/
  fresh : g.contains (g.addNode nodeType title ins outs).1 = false
  /-- It has not been given before. -/
  unissued : (g.addNode nodeType title ins outs).1 ∉ issued
  /-- It names the new node then, with nothing on any output. -/
  made : (g.addNode nodeType title ins outs).2.nodes.get?
      (g.addNode nodeType title ins outs).1
    = some
        { handle := (g.addNode nodeType title ins outs).1
          nodeType := nodeType
          title := title
          inputs := ins
          outputs := outs
          values := List.replicate outs.length none }
  /-- Every node stays with its values. -/
  nodes : ∀ v n, g.nodes.get? v = some n →
    (g.addNode nodeType title ins outs).2.nodes.get? v = some n
  /-- Every link stays, and there is no other. -/
  links : (g.addNode nodeType title ins outs).2.links = g.links
  /-- So it is with the marks. -/
  dirty : (g.addNode nodeType title ins outs).2.dirty = g.dirty

/-- Whether an operation, if it is an addition, creates a node. -/
def CreatesIfAdds (g : Graph) (issued : List Handle) : Operation → Prop
  | .addNode nodeType title ins outs => g.Creates issued nodeType title ins outs
  | _ => True

/-- The handles given by additions since the graph was emptied or read last. -/
def issuedAfter (g : Graph) (issued : List Handle) : Operation → List Handle
  | .addNode nodeType title ins outs =>
      (g.addNode nodeType title ins outs).1 :: issued
  | .clear => []
  | .configure data =>
      match configure data with
      | .ok _ => []
      | .error _ => issued
  | _ => issued

/-- Whether every addition of a run creates a node. -/
def AllCreate : Graph → List Handle → List Operation → Prop
  | _, _, [] => True
  | g, issued, o :: rest =>
      g.CreatesIfAdds issued o
        ∧ AllCreate (g.perform o) (g.issuedAfter issued o) rest

/-! ## Counting handles -/

/-- The number of handles that count as given after an operation, with `n`
    before it. -/
def Operation.count (n : Nat) : Operation → Nat
  | .addNode .. => n + 1
  | .clear => 0
  | .configure data =>
      match Graph.configure data with
      | .ok g => g.lastHandle
      | .error _ => n
  | _ => n

/-- Whether the handles last for a run. -/
def Lasting : Nat → List Operation → Prop
  | _, [] => True
  | n, o :: rest => o.count n < handleLimit ∧ Lasting (o.count n) rest

/-- Whether the count is right for a graph and the handles given. -/
structure Tallied (n : Nat) (g : Graph) (issued : List Handle) : Prop where
  /-- The count is the handle given last. -/
  lastHandle : g.lastHandle = n
  /-- It has 64 bits. -/
  lt : n < handleLimit
  /-- No node has a greater handle. -/
  bounded : ∀ v, g.contains v = true → v ≤ n
  /-- No greater one has been given. -/
  issued : ∀ v ∈ issued, v ≤ n

variable {g g' : Graph} {n : Nat} {issued : List Handle} {o : Operation}

theorem tallied_empty : Tallied 0 {} [] where
  lastHandle := rfl
  lt := by decide
  bounded v hv := by
    obtain ⟨n, hn⟩ := contains_iff.mp hv
    simp at hn
  issued := by simp

/-- After an import the count starts at the handle that was given last
    there. -/
theorem tallied_of_configure {data : Json} (h : configure data = .ok g) :
    Tallied g.lastHandle g [] where
  lastHandle := rfl
  lt := (legible_of_configure h).lastHandle
  bounded v hv := by
    obtain ⟨n, hn⟩ := contains_iff.mp hv
    exact (legible_of_configure h).bounded v (Table.mem_keys_iff.mpr ⟨n, hn⟩)
  issued := by simp

/-- An operation that gives no handle brings in no node. -/
structure AddsNothing (g g' : Graph) : Prop where
  /-- The handle given last. -/
  lastHandle : g'.lastHandle = g.lastHandle
  /-- What is a node has been one. -/
  contains : ∀ v, g'.contains v = true → g.contains v = true

theorem AddsNothing.refl (g : Graph) : AddsNothing g g :=
  ⟨rfl, fun _ h => h⟩

theorem AddsNothing.tallied (h : AddsNothing g g')
    (hn : Tallied n g issued) : Tallied n g' issued :=
  ⟨h.lastHandle.trans hn.lastHandle, hn.lt,
    fun v hv => hn.bounded v (h.contains v hv), hn.issued⟩

/-- A node may be stored in place of another one, whatever the links are. -/
theorem addsNothing_of_insert {v : Handle} {k m : LiveNode}
    (hv : g.nodes.get? v = some k) (hlast : g'.lastHandle = g.lastHandle)
    (hnodes : g'.nodes = g.nodes.insert v m) : AddsNothing g g' := by
  refine ⟨hlast, fun u hu => ?_⟩
  rw [Graph.contains, hnodes, Table.contains_insert, Bool.or_eq_true,
    decide_eq_true_eq] at hu
  rcases hu with rfl | hu
  · exact contains_iff.mpr ⟨k, hv⟩
  · exact hu

theorem addsNothing_of_nodes (hlast : g'.lastHandle = g.lastHandle)
    (hnodes : g'.nodes = g.nodes) : AddsNothing g g' :=
  ⟨hlast, fun v hv => by rwa [Graph.contains, hnodes] at hv⟩

/-- A node that is removed brings in none. -/
theorem addsNothing_removeNode (g : Graph) (v : Handle) :
    AddsNothing g (g.removeNode v).2 := by
  unfold Graph.removeNode
  split
  · refine ⟨rfl, fun u hu => ?_⟩
    obtain ⟨k, hk⟩ := contains_iff.mp hu
    rw [Table.get?_erase] at hk
    split at hk
    · cases hk
    · exact contains_iff.mpr ⟨k, hk⟩
  · exact .refl g

/-- Only additions, imports and the removal of everything change what has
    been given. -/
theorem addsNothing_of_result (hg : g.result o = .ok g')
    (hadds : o.adds = 0) (hclear : o ≠ .clear)
    (ho : ∀ data, o ≠ .configure data) : AddsNothing g g' := by
  -- each operation leaves the nodes as they are or changes the one that it is
  -- about
  cases o with
  | addNode nodeType title ins outs =>
      exact absurd hadds Nat.one_ne_zero
  | removeNode v =>
      cases hg
      exact addsNothing_removeNode g v
  | setTitle v title =>
      obtain ⟨k, hv, rfl⟩ := setTitle_eq_ok_iff.mp hg
      exact addsNothing_of_insert hv (by simp) (putNode_nodes _ _ _)
  | replacePorts v ins outs =>
      obtain ⟨k, hv, rfl⟩ := replacePorts_eq_ok_iff.mp hg
      exact addsNothing_of_insert hv (by simp) (putNode_nodes _ _ _)
  | addInput v port =>
      obtain ⟨k, hv, rfl⟩ := addInput_eq_ok_iff.mp hg
      exact addsNothing_of_insert hv (by simp) (putNode_nodes _ _ _)
  | removeInput v name =>
      obtain ⟨⟨b, k⟩, hk, rfl⟩ := map_eq_ok_iff.mp hg
      obtain ⟨m, hv, ⟨-, -, rfl⟩ | ⟨slot, -, -, rfl⟩⟩ :=
        removeInput_eq_ok_iff.mp hk
      · exact .refl _
      · exact addsNothing_of_insert hv (by simp [closeSlot])
          (putNode_nodes _ _ _)
  | setOutputData v index value =>
      obtain ⟨k, hv, -, rfl⟩ := setOutputData_eq_ok_iff.mp hg
      exact addsNothing_of_insert hv rfl rfl
  | mark v =>
      cases hg
      exact addsNothing_of_nodes (mark_lastHandle g v) (mark_nodes g v)
  | takeMarks =>
      cases hg
      exact addsNothing_of_nodes rfl rfl
  | connect s i t j =>
      obtain ⟨-, -, -, rfl⟩ := connect_eq_ok_iff.mp hg
      exact addsNothing_of_nodes rfl rfl
  | clear => exact absurd rfl hclear
  | configure data => exact absurd rfl (ho data)

/-- The count stays right in operations that give no handle. -/
theorem Tallied.perform_silent (h : Tallied n g issued) (hadds : o.adds = 0)
    (hclear : o ≠ .clear) (ho : ∀ data, o ≠ .configure data) :
    Tallied n (g.perform o) issued := by
  cases hg : g.result o with
  | ok g' =>
      rw [perform_of_ok hg]
      exact (addsNothing_of_result hg hadds hclear ho).tallied h
  | error e =>
      rw [perform_of_error hg]
      exact h

/-! ## Additions -/

/-- The next handle names no node. -/
theorem Tallied.contains_next (h : Tallied n g issued) :
    g.contains (n + 1) = false := by
  cases hv : g.contains (n + 1) with
  | false => rfl
  | true => exact absurd (h.bounded _ hv) (Nat.not_succ_le_self n)

/-- The count goes on with a new node as long as handles are left. -/
theorem Tallied.addNode (h : Tallied n g issued) (room : n + 1 < handleLimit)
    (nodeType title : String) (ins outs : List Port) :
    Tallied (n + 1) (g.addNode nodeType title ins outs).2
      ((g.addNode nodeType title ins outs).1 :: issued) := by
  have hroom : g.lastHandle + 1 < handleLimit := by rwa [h.lastHandle]
  rw [addNode_fst _ _ _ _ _ hroom, addNode_snd _ _ _ _ _ hroom, h.lastHandle]
  refine ⟨rfl, room, fun v hv => ?_, fun v hv => ?_⟩
  · rw [Graph.contains, Table.contains_insert, Bool.or_eq_true,
      decide_eq_true_eq] at hv
    rcases hv with rfl | hv
    · exact Nat.le_refl _
    · exact Nat.le_succ_of_le (h.bounded v hv)
  · rcases List.mem_cons.mp hv with rfl | hv
    · exact Nat.le_refl _
    · exact Nat.le_succ_of_le (h.issued v hv)

/-- While handles are left, an addition creates a node. -/
theorem Tallied.creates (h : Tallied n g issued) (room : n + 1 < handleLimit)
    (nodeType title : String) (ins outs : List Port) :
    g.Creates issued nodeType title ins outs := by
  have hroom : g.lastHandle + 1 < handleLimit := by rwa [h.lastHandle]
  have hfst := addNode_fst g nodeType title ins outs hroom
  have hsnd := addNode_snd g nodeType title ins outs hroom
  have hfresh : g.contains (g.lastHandle + 1) = false := by
    rw [h.lastHandle]
    exact h.contains_next
  refine ⟨hfst, ?_, ?_, ?_, ?_, ?_, ?_⟩
  · rw [hfst]
    exact hfresh
  · rw [hfst, h.lastHandle]
    exact fun hmem => Nat.not_succ_le_self n (h.issued _ hmem)
  · rw [hfst, hsnd, Table.get?_insert, if_pos rfl]
    rfl
  · intro v k hv
    -- a node that is there has another handle than the new one
    have hne : v ≠ g.lastHandle + 1 := by
      rintro rfl
      rw [contains_iff.mpr ⟨k, hv⟩] at hfresh
      cases hfresh
    rw [hsnd, Table.get?_insert, if_neg hne, hv]
  · rw [hsnd]
  · rw [hsnd]

/-- An addition creates a node exactly if a handle is left for it. -/
theorem Tallied.creates_iff (h : Tallied n g issued)
    (nodeType title : String) (ins outs : List Port) :
    g.Creates issued nodeType title ins outs ↔ n + 1 < handleLimit := by
  refine ⟨fun hc => ?_, fun room => h.creates room nodeType title ins outs⟩
  have hnext := hc.next
  rw [h.lastHandle] at hnext
  rw [← hnext]
  exact Nat.mod_lt _ (by decide)

/-! ## Runs -/

/-- Every operation keeps the count right while it stays within the
    handles. -/
theorem Tallied.perform (h : Tallied n g issued)
    (room : o.count n < handleLimit) :
    Tallied (o.count n) (g.perform o) (g.issuedAfter issued o) := by
  cases o with
  | addNode nodeType title ins outs =>
      exact h.addNode room nodeType title ins outs
  | clear => exact tallied_empty
  | configure data =>
      cases hg : configure data with
      | ok g' =>
          rw [perform_of_ok (o := .configure data) hg]
          simp only [Operation.count, issuedAfter, hg]
          exact tallied_of_configure hg
      | error e =>
          rw [perform_of_error (o := .configure data) hg]
          simp only [Operation.count, issuedAfter, hg]
          exact h
  | _ => exact h.perform_silent rfl (by simp) (by simp)

/-- An operation that is no addition stays within the handles. -/
theorem Tallied.createsIfAdds_iff (h : Tallied n g issued) :
    g.CreatesIfAdds issued o ↔ o.count n < handleLimit := by
  cases o with
  | addNode nodeType title ins outs =>
      exact h.creates_iff nodeType title ins outs
  | clear => exact iff_of_true trivial tallied_empty.lt
  | configure data =>
      refine iff_of_true trivial ?_
      cases hg : Graph.configure data with
      | ok g' =>
          simp only [Operation.count, hg]
          exact (tallied_of_configure hg).lt
      | error e =>
          simp only [Operation.count, hg]
          exact h.lt
  | _ => exact iff_of_true trivial h.lt

/-- By induction over the operations: every addition creates a node exactly if
    the handles last. -/
theorem Tallied.allCreate_iff (h : Tallied n g issued)
    (os : List Operation) : AllCreate g issued os ↔ Lasting n os := by
  -- the count stays right up to the first addition that has no handle left
  induction os generalizing n g issued with
  | nil => exact Iff.rfl
  | cons o rest ih =>
      rw [AllCreate, Lasting, h.createsIfAdds_iff]
      exact and_congr_right (fun room => ih (h.perform room))

/-- In every run of operations on a graph, every addition creates a node and
    destroys nothing if and only if the handles last. -/
theorem additions_create_iff (os : List Operation) :
    AllCreate {} [] os ↔ Lasting 0 os :=
  tallied_empty.allCreate_iff os

/-- Two linked nodes, with the last handle given. -/
def exhausted : Graph where
  lastHandle := handleLimit - 1
  nodes :=
    Table.ofList
      [(0, ⟨0, "a", "A", [], [⟨"x", "number", none⟩], [none]⟩),
        (1, ⟨1, "b", "B", [⟨"x", "number", none⟩], [], []⟩)]
  links := [⟨0, 0, 1, 0⟩]

/-- A graph with the last handle given is read; then a node that is added
    takes the place of one that is there, and its link with it. -/
theorem not_always_creates :
    ¬ (∀ os, AllCreate {} [] os)
      ∧ configure exhausted.toJson = .ok exhausted
      ∧ exhausted.addNode "c" "C" [] [⟨"y", "any", none⟩]
        = (0,
            { exhausted with
              lastHandle := 0
              nodes :=
                exhausted.nodes.insert 0
                  ⟨0, "c", "C", [], [⟨"y", "any", none⟩], [none]⟩ }) := by
  have hread : configure exhausted.toJson = .ok exhausted := by
    -- the state in which handles run out is one that is read where it was
    -- written
    have hsome : (configure exhausted.toJson).toOption = some exhausted := by
      decide +kernel
    cases hg : configure exhausted.toJson with
    | ok g =>
        rw [hg] at hsome
        exact congrArg _ (Option.some.inj hsome)
    | error e =>
        rw [hg] at hsome
        cases hsome
  have hadd : exhausted.addNode "c" "C" [] [⟨"y", "any", none⟩]
      = (0,
          { exhausted with
            lastHandle := 0
            nodes :=
              exhausted.nodes.insert 0
                ⟨0, "c", "C", [], [⟨"y", "any", none⟩], [none]⟩ }) := by
    decide +kernel
  -- after it the next handle is 0, which a node has
  refine ⟨fun h => ?_, hread, hadd⟩
  obtain ⟨-, hc, -⟩ :=
    h [.configure exhausted.toJson, .addNode "c" "C" [] [⟨"y", "any", none⟩]]
  have hfresh := hc.fresh
  rw [perform_of_ok (o := .configure exhausted.toJson) hread, hadd] at hfresh
  revert hfresh
  decide +kernel

end NodeFlow.Graph
