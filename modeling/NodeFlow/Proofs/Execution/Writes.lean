import NodeFlow.Execution.Engine
import NodeFlow.Proofs.Workbench.Consistent

/-! # What execution can do to a workbench

    A step of a call writes values to outputs, clears them and marks nodes.
    The registry, the ports and the links stay as they are. -/

namespace NodeFlow

open Workbench (SameButValues)

namespace Engine

variable {e : Engine} {g : Graph} {v : Handle}

/-! ## Writing -/

/-- Writing outputs changes nothing that a blank graph shows, even where a
    write fails. -/
theorem writeFrom_blank (g : Graph) (v : Handle) (i : Nat)
    (outputs : List (Option Json)) :
    (writeFrom g v i outputs).blank = g.blank := by
  induction outputs generalizing g i with
  | nil => rfl
  | cons value rest ih =>
      rw [writeFrom, ih]
      cases h : g.setOutputData v i value with
      | ok g' => exact Graph.setOutputData_blank h
      | error _ => rfl

/-- Writing outputs keeps a graph well-formed. -/
theorem writeFrom_wellFormed (h : g.WellFormed) (v : Handle) (i : Nat)
    (outputs : List (Option Json)) :
    (writeFrom g v i outputs).WellFormed := by
  induction outputs generalizing g i with
  | nil => exact h
  | cons value rest ih =>
      rw [writeFrom]
      refine ih ?_ (i + 1)
      cases hset : g.setOutputData v i value with
      | ok g' => exact h.setOutputData hset
      | error _ => exact h

/-- Other nodes keep their values. -/
theorem get?_writeFrom_of_ne {u : Handle} (hu : u ≠ v) (i : Nat)
    (outputs : List (Option Json)) :
    (writeFrom g v i outputs).nodes.get? u = g.nodes.get? u := by
  induction outputs generalizing g i with
  | nil => rfl
  | cons value rest ih =>
      rw [writeFrom, ih]
      cases h : g.setOutputData v i value with
      | ok g' =>
          obtain ⟨n, -, -, rfl⟩ := Graph.setOutputData_eq_ok_iff.mp h
          show (g.nodes.insert v _).get? u = _
          rw [Table.get?_insert, if_neg hu]
      | error _ => rfl

/-- As many values as there are places left take these places. -/
theorem get?_writeFrom {n : LiveNode} (hn : g.nodes.get? v = some n) {i : Nat}
    {outputs : List (Option Json)}
    (hlength : n.values.length = i + outputs.length) :
    (writeFrom g v i outputs).nodes.get? v
      = some { n with values := n.values.take i ++ outputs } := by
  induction outputs generalizing g n i with
  | nil =>
      -- everything has been written
      have hall : n.values.take i = n.values :=
        List.take_of_length_le (Nat.le_of_eq hlength)
      rw [writeFrom, hn, hall, List.append_nil]
  | cons value rest ih =>
      have hi : i < n.values.length := by
        rw [hlength, List.length_cons]
        omega
      have hset : g.setOutputData v i value
          = .ok { g with
              nodes :=
                g.nodes.insert v
                  { n with values := n.values.set i value } } :=
        Graph.setOutputData_eq_ok_iff.mpr ⟨n, hn, hi, rfl⟩
      -- one more value is in place, and the rest follows it
      have htake : (n.values.set i value).take (i + 1) ++ rest
          = n.values.take i ++ value :: rest := by
        rw [List.take_set, List.take_succ_eq_append_getElem hi,
          List.set_append_right _ _ (by simp [Nat.le_of_lt hi])]
        simp [Nat.le_of_lt hi]
      rw [writeFrom, hset]
      show (writeFrom { g with
        nodes := g.nodes.insert v { n with values := n.values.set i value } }
          v (i + 1) rest).nodes.get? v = _
      rw [ih (n := { n with values := n.values.set i value })
        (by rw [Table.get?_insert, if_pos rfl])
        (by
          show (n.values.set i value).length = _
          rw [List.length_set, hlength, List.length_cons]
          omega)]
      show some { n with
        values := (n.values.set i value).take (i + 1) ++ rest } = _
      rw [htake]

/-- Writing the outputs of a node changes values and marks only. -/
theorem writeOutputs_same (e : Engine) (v : Handle)
    (outputs : List (Option Json)) :
    e.bench.SameButValues (e.writeOutputs v outputs).bench where
  registry := rfl
  blank := (Graph.mark_blank _ _).trans (writeFrom_blank _ _ _ _)
  graph h := (writeFrom_wellFormed h v 0 outputs).mark v

/-- A failure changes values and marks only. -/
theorem fail_same (e : Engine) (v : Handle) (r : Record) (detail : String) :
    e.bench.SameButValues (e.fail v r detail).2.bench :=
  e.writeOutputs_same v _

/-- The end of a cycle changes values and marks only. -/
theorem resolve_same (e : Engine) (v : Handle) (r : Record) (reply : Reply) :
    e.bench.SameButValues (e.resolve v r reply).2.bench := by
  unfold resolve
  cases reply with
  | error failure => exact e.fail_same v r _
  | ok result =>
      simp only
      cases result.error? with
      | some detail => exact (e.setState v .resolving).fail_same v r detail
      | none => exact (e.setState v .resolving).writeOutputs_same v _

/-! ## Steps of a call -/

/-- A cycle that gets ready changes values and marks only. -/
theorem prepare_same (e : Engine) (c : Call) (r : Record) :
    e.bench.SameButValues (e.prepare c r).2.bench := by
  unfold prepare
  simp only
  cases Backend.select (r.codeType?.getD "") with
  | error failure => exact fail_same _ c.node r failure.message
  | ok backend =>
      simp only
      cases Request.ofCode _ backend r.code _ with
      | error failure => exact fail_same _ c.node r failure.message
      | ok request => exact .refl _

/-- A call that enters changes values and marks only. -/
theorem enter_same (e : Engine) (c : Call) :
    e.bench.SameButValues (e.enter c).2.bench := by
  unfold enter
  split
  · split
    · exact .refl _
    · exact e.prepare_same c _
  · exact .refl _

@[simp] theorem lockFor_bench (e : Engine) (v : Handle) :
    (e.lockFor v).2.bench = e.bench := by
  unfold lockFor
  split <;> rfl

@[simp] theorem arrive_bench (e : Engine) (v : Handle) :
    (e.arrive v).2.bench = e.bench :=
  e.lockFor_bench v

@[simp] theorem arrive_node (e : Engine) (v : Handle) :
    (e.arrive v).1.node = v := rfl

/-- A new call changes values and marks only. -/
theorem start_same (e : Engine) (v : Handle) :
    e.bench.SameButValues (e.start v).2.2.bench := by
  unfold start
  simp only
  split
  · exact (e.arrive_bench v) ▸ SameButValues.refl _
  · have h := (e.arrive v).2.enter_same (e.arrive v).1
    rwa [arrive_bench] at h

/-- A call that goes on changes values and marks only. -/
theorem resume_same (e : Engine) (id : CallId) :
    e.bench.SameButValues (e.resume id).2.bench := by
  unfold resume
  split
  · exact e.enter_same _
  · exact .refl _

/-- A reply changes values and marks only. -/
theorem reply_same (e : Engine) (id : CallId) (answer : Reply) :
    e.bench.SameButValues (e.reply id answer).2.bench := by
  unfold reply
  split
  · exact e.resolve_same _ _ answer
  · exact .refl _

/-- A selection changes no value and no mark. -/
theorem select_same (e : Engine) (node : Option Handle) :
    e.bench.SameButValues (e.select node).2.bench := by
  unfold select
  split <;> exact .refl _

/-! ## Actions -/

/-- What can happen to an engine: calls may take their steps in any order. -/
inductive Action where
  /-- A new call on a node. -/
  | start (node : Handle)
  /-- A call that waited for its lock goes on. -/
  | resume (id : CallId)
  /-- A backend answers a call. -/
  | reply (id : CallId) (answer : Reply)
  /-- A node is selected, or none. -/
  | select (node : Option Handle)

/-- The engine after an action. -/
def perform (e : Engine) : Action → Engine
  | .start node => (e.start node).2.2
  | .resume id => (e.resume id).2
  | .reply id answer => (e.reply id answer).2
  | .select node => (e.select node).2

/-- Every action changes values and marks only. -/
theorem perform_same (e : Engine) (a : Action) :
    e.bench.SameButValues (e.perform a).bench := by
  cases a with
  | start node => exact e.start_same node
  | resume id => exact e.resume_same id
  | reply id answer => exact e.reply_same id answer
  | select node => exact e.select_same node

end Engine
end NodeFlow
