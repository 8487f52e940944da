import Mathlib.Tactic.ByContra
import NodeFlow.Proofs.Execution.Pass
import NodeFlow.Proofs.Registry.Removal
import NodeFlow.Proofs.Workbench.Ports

/-! # Removed nodes do not run

    A call looks up the record of its node when its turn has come.  So what
    is removed does not run, neither in a call of its own nor in a pass over
    all nodes, unless its node leads to the removed record once more.  That
    it may do so after a link by identifier or an import is a matter of the
    registry; nothing else that is done to a workbench brings a removed
    record back (`removal_final_iff`). -/

namespace NodeFlow

/-- Whether a node leads to a record that is not removed. -/
def Registry.hasLive (r : Registry) (v : Handle) : Bool :=
  (r.recordOf? v).any (fun x => !x.removed)

namespace Workbench

/-- What is done to a workbench, its registry or its graph. -/
inductive Operation where
  /-- Add a node. -/
  | addNode (nodeType : String)
  /-- Remove a node. -/
  | removeNode (v : Handle)
  /-- Add a dynamic input. -/
  | addDynamicInput (v : Handle) (name type : String)
  /-- Remove the dynamic inputs of a name. -/
  | removeDynamicInput (v : Handle) (name : String)
  /-- Give a node another title and other static ports. -/
  | applyStructure (id title : String) (inputs outputs : List Port)
  /-- Store code. -/
  | setCode (id code language : String) (now : Timestamp)
  /-- Store a description. -/
  | setDescription (id text : String)
  /-- Take in a workflow. -/
  | configure (s : Snapshot)
  /-- Remove everything but the templates. -/
  | clear
  /-- Register a template. -/
  | template (t : Template)
  /-- Ask the registry for something. -/
  | registry (o : Registry.Operation)
  /-- Change the graph in any way. -/
  | graph (g : Graph)

/-- The workbench after an operation. -/
def perform (w : Workbench) : Operation → Workbench
  | .addNode nodeType => (w.addNode nodeType).2
  | .removeNode v => (w.removeNode v).2
  | .addDynamicInput v name type => (w.addDynamicInput v name type).2
  | .removeDynamicInput v name => (w.removeDynamicInput v name).2
  | .applyStructure id title ins outs => (w.applyStructure id title ins outs).2
  | .setCode id code language now => (w.setCode id code language now).2
  | .setDescription id text => (w.setDescription id text).2
  | .configure s => (w.configure s).2
  | .clear => w.clear
  | .template t => { w with registry := w.registry.addTemplate t }
  | .registry o => { w with registry := w.registry.perform o }
  | .graph g => { w with graph := g }

/-- The workbench after one operation after the other. -/
def run (w : Workbench) (os : List Operation) : Workbench := os.foldl perform w

/-- Whether an operation links no node to a removed record. -/
def Sparing (w : Workbench) : Operation → Prop
  | .configure s => w.registry.Sparing (.configure s)
  | .registry o => w.registry.Sparing o
  | _ => True

/-- Whether no operation of a run links a node to a removed record. -/
def AllSparing : Workbench → List Operation → Prop
  | _, [] => True
  | w, o :: rest => w.Sparing o ∧ AllSparing (w.perform o) rest

variable {w : Workbench}

open Registry (SameLinks SameMarks)

/-! ## What an operation does to the registry -/

theorem addDynamicInput_registry (w : Workbench) (v : Handle)
    (name type : String) :
    (w.addDynamicInput v name type).2.registry = w.registry
      ∨ ∃ id, (w.addDynamicInput v name type).2.registry
          = (w.registry.addDynamicInput id name type).2 := by
  unfold addDynamicInput
  cases w.registry.recordOf? v with
  | none => exact Or.inl rfl
  | some x => exact Or.inr ⟨x.id, rfl⟩

theorem removeDynamicInput_registry (w : Workbench) (v : Handle)
    (name : String) :
    (w.removeDynamicInput v name).2.registry = w.registry
      ∨ ∃ id, (w.removeDynamicInput v name).2.registry
          = (w.registry.removeDynamicInput id name).2 := by
  unfold removeDynamicInput
  cases w.registry.recordOf? v with
  | none => exact Or.inl rfl
  | some x => exact Or.inr ⟨x.id, rfl⟩

theorem setCode_registry (w : Workbench) (id code language : String)
    (now : Timestamp) :
    (w.setCode id code language now).2.registry = w.registry
      ∨ (w.setCode id code language now).2.registry
          = ((w.registry.updateProperties id
              (Table.ofList [(Record.codeKey, .str code)])).2.saveCode id code
                language now).2 := by
  unfold setCode
  simp only
  split
  · exact Or.inr rfl
  · exact Or.inl rfl

/-- The registry of an import does not depend on the graph before it. -/
theorem configure_registry (w : Workbench) (s : Snapshot) :
    (w.configure s).2.registry = w.registry.perform (.configure s) := by
  simp only [Registry.perform, configure]
  cases Graph.configure s.graph <;> rfl

/-- The registry carries out one operation of its own, or it keeps all marks
    and links. -/
theorem perform_registry (w : Workbench) (o : Operation) :
    (∃ o', (w.perform o).registry = w.registry.perform o'
        ∧ (w.Sparing o ↔ w.registry.Sparing o'))
      ∨ SameLinks w.registry (w.perform o).registry
        ∧ SameMarks w.registry (w.perform o).registry
        ∧ w.Sparing o := by
  -- only code is stored by two operations, and templates and graph by none
  cases o with
  | addNode nodeType => exact Or.inl ⟨.add _ nodeType, rfl, Iff.rfl⟩
  | removeNode v => exact Or.inl ⟨.remove v, rfl, Iff.rfl⟩
  | addDynamicInput v name type =>
      rw [perform]
      rcases w.addDynamicInput_registry v name type with heq | ⟨id, heq⟩
      · rw [heq]
        exact Or.inr ⟨.refl _, .refl _, trivial⟩
      · exact Or.inl ⟨.addDynamicInput id name type, heq, Iff.rfl⟩
  | removeDynamicInput v name =>
      rw [perform]
      rcases w.removeDynamicInput_registry v name with heq | ⟨id, heq⟩
      · rw [heq]
        exact Or.inr ⟨.refl _, .refl _, trivial⟩
      · exact Or.inl ⟨.removeDynamicInput id name, heq, Iff.rfl⟩
  | applyStructure id title ins outs =>
      refine Or.inl ⟨.setStructure id title ins outs, ?_, Iff.rfl⟩
      rw [perform, applyStructure_snd]
      rfl
  | setCode id code language now =>
      refine Or.inr ?_
      rw [perform]
      have hlinks (more) : SameLinks w.registry
          (w.registry.updateProperties id more).2 :=
        Registry.sameLinks_update (·.withProperties more) (fun _ => rfl)
      have hmarks (more) : SameMarks w.registry
          (w.registry.updateProperties id more).2 :=
        Registry.sameMarks_update (fun _ => rfl)
      rcases w.setCode_registry id code language now with heq | heq <;>
        rw [heq]
      · exact ⟨.refl _, .refl _, trivial⟩
      · exact ⟨(hlinks _).trans (Registry.sameLinks_saveCode _ _ _ _ _),
          (hmarks _).trans (Registry.sameMarks_saveCode _ _ _ _ _), trivial⟩
  | setDescription id text =>
      exact Or.inl ⟨.updateProperties id _, rfl, Iff.rfl⟩
  | configure s =>
      exact Or.inl ⟨.configure s, w.configure_registry s, Iff.rfl⟩
  | clear => exact Or.inl ⟨.clear, rfl, Iff.rfl⟩
  | template t =>
      exact Or.inr ⟨⟨rfl, rfl, fun _ h => h, fun h => h⟩,
        ⟨rfl, fun _ x hx => ⟨x, hx, rfl⟩⟩, trivial⟩
  | registry o => exact Or.inl ⟨o, rfl, Iff.rfl⟩
  | graph g => exact Or.inr ⟨.refl _, .refl _, trivial⟩

theorem tied_perform (h : w.registry.Tied) (o : Operation) :
    (w.perform o).registry.Tied := by
  rcases w.perform_registry o with ⟨o', heq, -⟩ | ⟨hlinks, -, -⟩
  · rw [heq]
    exact h.perform o'
  · exact hlinks.tied h

/-- An operation makes no node lead to a removed record exactly if it is
    sparing. -/
theorem noneRemoved_perform_iff (h : w.registry.Tied)
    (hn : w.registry.NoneRemoved) (o : Operation) :
    (w.perform o).registry.NoneRemoved ↔ w.Sparing o := by
  rcases w.perform_registry o with ⟨o', heq, hiff⟩ | ⟨-, hmarks, hsparing⟩
  · rw [heq, hiff, h.noneRemoved_perform_iff hn o']
  · exact iff_of_true (hmarks.noneRemoved hn) hsparing

/-- By induction over the operations: no node ever leads to a removed record
    exactly if all are sparing. -/
theorem noneRemoved_run_iff (h : w.registry.Tied)
    (hn : w.registry.NoneRemoved) (os : List Operation) :
    (∀ n, (w.run (os.take n)).registry.NoneRemoved) ↔ w.AllSparing os := by
  -- what an operation does is known only where the law has held so far
  induction os generalizing w with
  | nil => exact iff_of_true (fun n => by rw [List.take_nil]; exact hn) trivial
  | cons o rest ih =>
      rw [AllSparing, ← noneRemoved_perform_iff h hn o]
      constructor
      · intro hall
        have hone : (w.perform o).registry.NoneRemoved := hall 1
        exact ⟨hone, (ih (tied_perform h o) hone).mp (fun n => hall (n + 1))⟩
      · rintro ⟨hone, hrest⟩ n
        cases n with
        | zero => exact hn
        | succ n => exact (ih (tied_perform h o) hone).mpr hrest n

end Workbench

/-! ## Calls -/

namespace Engine

variable {e : Engine} {c : Call} {v : Handle}

/-- Whether no cycle has begun and none will: the call goes on waiting, or it
    is skipped. -/
def PassedOver (p : Progress) : Prop :=
  p = .waits ∨ ∃ reason, p = .ends (.skipped reason)

/-- What is said of an engine on which nothing that is removed runs. -/
structure RunsLiveOnly (e : Engine) : Prop where
  /-- A call on a node that leads to no live record runs nothing. -/
  start : ∀ v, e.bench.registry.hasLive v = false →
    PassedOver (e.start v).2.1
  /-- Neither does one that has waited. -/
  resume : ∀ id c, e.call? id = some c →
    e.bench.registry.hasLive c.node = false → PassedOver (e.resume id).1
  /-- A pass runs the nodes that lead to a live record. -/
  executeAll : ∀ {m : Type → Type} [Monad m] (respond : Request → m Reply),
    executeAll respond e
      = executeEach respond e
          (e.bench.graph.order.filter e.bench.registry.hasLive)

theorem recordOf?_eq_none_of_hasLive (h : e.bench.registry.NoneRemoved)
    (hv : e.bench.registry.hasLive v = false) :
    e.bench.registry.recordOf? v = none := by
  cases hx : e.bench.registry.recordOf? v with
  | none => rfl
  | some x => simp [Registry.hasLive, hx, h v x hx] at hv

theorem passedOver_enter (hnone : e.bench.registry.recordOf? c.node = none) :
    PassedOver (e.enter c).1 := by
  unfold enter
  split
  · rw [hnone]
    exact Or.inr ⟨_, rfl⟩
  · exact Or.inl rfl

/-- If no node leads to a removed record, only live records are run. -/
theorem runsLiveOnly (h : e.bench.registry.NoneRemoved) : e.RunsLiveOnly where
  start v hv := by
    unfold start
    simp only
    split
    · exact Or.inr ⟨_, rfl⟩
    · refine passedOver_enter ?_
      rw [arrive_bench, arrive_node]
      -- a node without a live record has none at all
      exact recordOf?_eq_none_of_hasLive h hv
  resume id c hc hv := by
    obtain ⟨cid, v, lock, running⟩ := c
    unfold resume
    rw [hc]
    cases running with
    | none => exact passedOver_enter (recordOf?_eq_none_of_hasLive h hv)
    | some x => exact Or.inl rfl
  executeAll respond := by
    unfold executeAll
    congr 1
    refine List.filter_congr (fun v _ => ?_)
    unfold Registry.hasLive
    -- a pass leaves out nodes without a record, and no other
    cases hx : e.bench.registry.recordOf? v with
    | none => rfl
    | some x => simp [h v x hx]

/-- A call on a node without other calls begins the cycle of its record, also
    if that is removed. -/
theorem not_passedOver_start {w : Workbench} {x : Record}
    (hx : w.registry.recordOf? v = some x) :
    ¬ PassedOver (({ bench := w } : Engine).start v).2.1 := by
  obtain ⟨c, e₁, hstart, -⟩ :=
    start_quiet (e := { bench := w }) ⟨rfl, rfl, fun _ => rfl⟩ hx
  rw [hstart]
  obtain ⟨e₂, -, -, ⟨outcome, -, hprep, -, heval⟩ | ⟨request, -, hprep, -⟩⟩ :=
    e₁.prepare_cases c x
  · rintro (heq | ⟨reason, heq⟩)
    · rw [hprep] at heq
      cases heq
    · rw [hprep] at heq
      cases heq
      -- what a record evaluates to is never a skip
      let respond : Request → Reply := fun _ => .error (.timeout 0)
      have hskip := heval respond
      rcases evaluate_cases e₁.surroundings respond x
        (collectInputs e₁.bench.graph c.node x) with ⟨_, h⟩ | ⟨_, h, -⟩ <;>
      · rw [h] at hskip
        cases hskip
  · rintro (heq | ⟨reason, heq⟩) <;>
    · rw [hprep] at heq
      cases heq

/-- Nothing that is removed runs, whatever calls there are, if and only if no
    node leads to a removed record. -/
theorem noneRemoved_iff_runsLiveOnly (w : Workbench) :
    w.registry.NoneRemoved ↔ ∀ e : Engine, e.bench = w → e.RunsLiveOnly := by
  constructor
  · rintro h e rfl
    exact runsLiveOnly h
  · intro hall v x hx
    by_contra hmark
    have hdead : w.registry.hasLive v = false := by
      simpa [Registry.hasLive, hx] using hmark
    exact not_passedOver_start hx ((hall { bench := w } rfl).start v hdead)

end Engine

/-! ## Every run -/

namespace Workbench

/-- In a run of operations no node ever leads to a removed record, and no call
    or pass ever runs one, exactly if no node is linked to a removed record:
    neither by identifier nor by an import that makes its last link to a live
    node with a record that is marked. -/
theorem removal_final_iff (templates : Table String Template)
    (os : List Operation) :
    let w : Workbench := ⟨{}, { templates := templates }⟩
    ((∀ n v x, (w.run (os.take n)).registry.recordOf? v = some x →
        x.removed = false) ↔ w.AllSparing os)
      ∧ ((∀ n (e : Engine), e.bench = w.run (os.take n) → e.RunsLiveOnly)
          ↔ w.AllSparing os) := by
  intro w
  have hiff := noneRemoved_run_iff (w := w)
    (Registry.tied_clear { templates := templates })
    (Registry.noneRemoved_of_empty rfl) os
  refine ⟨hiff, hiff.symm.trans ?_ |>.symm⟩
  exact forall_congr' (fun n => Engine.noneRemoved_iff_runsLiveOnly _)

/-- A record that is marked as removed is imported and linked to a node. -/
theorem not_always_final :
    ¬ ∀ (os : List Operation) (v : Handle) (x : Record),
        (run {} os).registry.recordOf? v = some x → x.removed = false := by
  intro hall
  let x : Record := { id := "1", nodeType := "t", title := "t", removed := true }
  let g : Graph := (({} : Graph).addNode "t" "t" [] []).2
  let s : Snapshot :=
    { graph := g.toJson
      nodes := [x]
      links := Table.ofList [("1", 1)]
      code := Table.empty }
  have hx : (run {} [.configure s]).registry.recordOf? 1 = some x := by
    decide +kernel
  exact absurd (hall _ _ _ hx) (by decide)

end Workbench
end NodeFlow
