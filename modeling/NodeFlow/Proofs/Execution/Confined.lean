import NodeFlow.CommandLine.Run
import NodeFlow.Proofs.Execution.Locks
import NodeFlow.Proofs.Graph.Blob
import NodeFlow.Proofs.Workbench.Handles

/-! # Execution leaves the workflow alone

    A step of a call changes values and mark of the node that the call is on,
    whatever has become of the workbench since the call was made, and nothing
    at all if that node is not live any more.  None of it is exported.  So a
    workflow may be run and saved, and what is saved is the workflow as it was
    opened (`Engine.execution_confined`).

    A call knows its node by the handle alone.  So a reply that comes after
    the node was removed is lost only as long as the handle is not given
    again, and a clear makes that possible (`Engine.not_always_late`). -/

namespace NodeFlow

/-! ## One node -/

/-- Whether two graphs differ at most in what one node holds and in its
    mark. -/
structure Graph.SameBut (v : Handle) (g g' : Graph) : Prop where
  /-- The same handle was given last. -/
  lastHandle : g'.lastHandle = g.lastHandle
  /-- The links are the same. -/
  links : g'.links = g.links
  /-- So are all other nodes. -/
  others : ∀ u, u ≠ v → g'.nodes.get? u = g.nodes.get? u
  /-- So are their marks. -/
  marks : ∀ u, u ≠ v → g'.dirty.get? u = g.dirty.get? u
  /-- The node holds other values on its outputs at most. -/
  live : ∀ n, g.nodes.get? v = some n → ∃ values : List (Option Json),
    values.length = n.values.length
      ∧ g'.nodes.get? v = some { n with values := values }
  /-- Without the node nothing changes. -/
  dead : g.contains v = false → g' = g

namespace Graph.SameBut

variable {g g' k : Graph} {v : Handle}

/-- A graph is the same as itself. -/
theorem refl (v : Handle) (g : Graph) : SameBut v g g where
  lastHandle := rfl
  links := rfl
  others _ _ := rfl
  marks _ _ := rfl
  live n hn := ⟨n.values, rfl, hn⟩
  dead _ := rfl

/-- What two steps leave as it is, both together do. -/
theorem trans (h : SameBut v g g') (h' : SameBut v g' k) :
    SameBut v g k where
  lastHandle := h'.lastHandle.trans h.lastHandle
  links := h'.links.trans h.links
  others u hu := (h'.others u hu).trans (h.others u hu)
  marks u hu := (h'.marks u hu).trans (h.marks u hu)
  live n hn := by
    obtain ⟨first, hfirst, hmid⟩ := h.live n hn
    obtain ⟨second, hsecond, hlast⟩ := h'.live _ hmid
    exact ⟨second, hsecond.trans hfirst, hlast⟩
  dead hdead := by
    have hsame := h.dead hdead
    subst hsame
    exact h'.dead hdead

/-- A mark for drawing is all that a mark changes. -/
theorem mark (g : Graph) (v : Handle) : SameBut v g (g.mark v) where
  lastHandle := g.mark_lastHandle v
  links := g.mark_links v
  others _ _ := by rw [mark_nodes]
  marks u hu := by
    unfold Graph.mark
    split
    · show (g.dirty.insert v ()).get? u = _
      rw [Table.get?_insert, if_neg hu]
    · rfl
  live n hn := ⟨n.values, rfl, by rw [mark_nodes, hn]⟩
  dead hdead := by
    unfold Graph.mark
    rw [hdead]
    rfl

/-- A value on an output is all that setting one changes. -/
theorem setOutputData {index : Nat} {value : Option Json}
    (h : g.setOutputData v index value = .ok g') : SameBut v g g' := by
  obtain ⟨n, hn, -, rfl⟩ := setOutputData_eq_ok_iff.mp h
  constructor
  · rfl
  · rfl
  · intro u hu
    show (g.nodes.insert v _).get? u = _
    rw [Table.get?_insert, if_neg hu]
  · exact fun _ _ => rfl
  · intro m hm
    rw [hn] at hm
    cases hm
    refine ⟨n.values.set index value, List.length_set, ?_⟩
    show (g.nodes.insert v _).get? v = _
    rw [Table.get?_insert, if_pos rfl]
  · intro hdead
    rw [Graph.contains, Table.contains_eq_false_iff, hn] at hdead
    cases hdead

/-- The values of one node are all that writing its outputs changes, even
    where a write fails. -/
theorem writeFrom (g : Graph) (v : Handle) (i : Nat)
    (outputs : List (Option Json)) :
    SameBut v g (Engine.writeFrom g v i outputs) := by
  induction outputs generalizing g i with
  | nil => exact .refl v g
  | cons value rest ih =>
      rw [Engine.writeFrom]
      cases h : g.setOutputData v i value with
      | ok g' => exact (setOutputData h).trans (ih g' (i + 1))
      | error _ => exact ih g (i + 1)

end Graph.SameBut

/-- Whether two workbenches differ at most in what one node holds and in its
    mark. -/
structure Workbench.SameBut (v : Handle) (w w' : Workbench) : Prop where
  /-- The registry is the same. -/
  registry : w'.registry = w.registry
  /-- So is the graph but for the node. -/
  graph : w.graph.SameBut v w'.graph

/-- A workbench is the same as itself. -/
theorem Workbench.SameBut.refl (v : Handle) (w : Workbench) :
    w.SameBut v w :=
  ⟨rfl, .refl v w.graph⟩

/-- Without the node nothing changes. -/
theorem Workbench.SameBut.eq {v : Handle} {w w' : Workbench}
    (h : w.SameBut v w') (hdead : w.graph.contains v = false) : w' = w := by
  obtain ⟨graph, registry⟩ := w
  obtain ⟨graph', registry'⟩ := w'
  obtain rfl : graph' = graph := h.graph.dead hdead
  obtain rfl : registry' = registry := h.registry
  rfl

namespace Engine

variable {e : Engine} {c d : Call} {v : Handle} {a : Action}

/-! ## Steps of a call -/

/-- Writing outputs changes nothing but values and the mark of their node. -/
theorem writeOutputs_sameBut (e : Engine) (v : Handle)
    (outputs : List (Option Json)) :
    e.bench.SameBut v (e.writeOutputs v outputs).bench where
  registry := rfl
  graph := (Graph.SameBut.writeFrom _ v 0 outputs).trans (.mark _ v)

/-- Whatever the reply, the end of a cycle changes nothing but values and the
    mark of its node. -/
theorem resolve_sameBut (e : Engine) (v : Handle) (x : Record)
    (reply : Reply) : e.bench.SameBut v (e.resolve v x reply).2.bench := by
  rw [(e.resolve_settle v x reply).2.2.2]
  exact e.writeOutputs_sameBut v _

/-- A cycle that gets ready changes nothing but values and the mark of its
    node, even if it fails. -/
theorem prepare_sameBut (e : Engine) (c : Call) (x : Record) :
    e.bench.SameBut c.node (e.prepare c x).2.bench := by
  obtain ⟨e', -, -, ⟨outcome, -, heq, hbench, -⟩ |
      ⟨request, -, heq, hbench, -⟩⟩ :=
    e.prepare_cases c x
  · rw [heq]
    show e.bench.SameBut c.node e'.bench
    rw [hbench]
    exact e.writeOutputs_sameBut c.node _
  · rw [heq]
    show e.bench.SameBut c.node e'.bench
    rw [hbench]
    exact .refl _ _

/-- A call that enters changes nothing but values and the mark of its node. -/
theorem enter_sameBut (e : Engine) (c : Call) :
    e.bench.SameBut c.node (e.enter c).2.bench := by
  unfold enter
  split
  · split
    · exact .refl _ _
    · exact e.prepare_sameBut c _
  · exact .refl _ _

/-- A new call changes nothing but values and the mark of its node, whether it
    runs, waits or is dropped. -/
theorem start_sameBut (e : Engine) (v : Handle) :
    e.bench.SameBut v (e.start v).2.2.bench := by
  have henter := (e.arrive v).2.enter_sameBut (e.arrive v).1
  rw [arrive_bench, arrive_node] at henter
  unfold start
  simp only
  split
  · exact (e.arrive_bench v).symm ▸ .refl v e.bench
  · exact henter

/-- A call that goes on changes nothing but values and the mark of its
    node. -/
theorem resume_sameBut {id : CallId} (hc : e.call? id = some c) :
    e.bench.SameBut c.node (e.resume id).2.bench := by
  unfold resume
  rw [hc]
  split
  · rename_i heq
    cases heq
    exact e.enter_sameBut _
  · exact .refl _ _

/-- A reply changes nothing but values and the mark of the node of the call
    that gets it. -/
theorem reply_sameBut {id : CallId} (hc : e.call? id = some c)
    (answer : Reply) :
    e.bench.SameBut c.node (e.reply id answer).2.bench := by
  unfold reply
  rw [hc]
  split
  · rename_i heq
    cases heq
    exact e.resolve_sameBut _ _ answer
  · exact .refl _ _

/-! ## Actions -/

/-- The node of the call that takes a step. -/
def place (e : Engine) : Action → Option Handle
  | .start v => some v
  | .resume id => (e.call? id).map Call.node
  | .reply id _ => (e.call? id).map Call.node
  | .select _ => none

/-- An action changes nothing but values and the mark of the node that it is
    about. -/
theorem perform_sameBut (hv : e.place a = some v) :
    e.bench.SameBut v (e.perform a).bench := by
  cases a with
  | start u =>
      cases hv
      exact e.start_sameBut v
  | resume id =>
      obtain ⟨c, hc, rfl⟩ := Option.map_eq_some_iff.mp hv
      exact resume_sameBut hc
  | reply id answer =>
      obtain ⟨c, hc, rfl⟩ := Option.map_eq_some_iff.mp hv
      exact reply_sameBut hc answer
  | select u => cases hv

/-- An action that is about no node changes nothing. -/
theorem perform_bench_of_nowhere (hnone : e.place a = none) :
    (e.perform a).bench = e.bench := by
  cases a with
  | start u => cases hnone
  | resume id =>
      have hc : e.call? id = none := Option.map_eq_none_iff.mp hnone
      show (e.resume id).2.bench = _
      rw [resume, hc]
  | reply id answer =>
      have hc : e.call? id = none := Option.map_eq_none_iff.mp hnone
      show (e.reply id answer).2.bench = _
      rw [reply, hc]
  | select u =>
      show (e.select u).2.bench = _
      unfold select
      split <;> rfl

/-! ## Calls keep their nodes -/

/-- Whether every call of one engine is one of another, on the same node. -/
def KeepsNodes (e e' : Engine) : Prop :=
  ∀ d ∈ e'.calls, ∃ c ∈ e.calls, c.id = d.id ∧ c.node = d.node

/-- Where nothing happens calls keep their nodes. -/
theorem KeepsNodes.refl (e : Engine) : KeepsNodes e e :=
  fun d hd => ⟨d, hd, rfl, rfl⟩

/-- A call that ends leaves the others to their nodes. -/
theorem keepsNodes_close {e' : Engine} (h : e'.calls = e.calls) (c : Call)
    (outcome : Outcome) : KeepsNodes e (close c (outcome, e')).2 :=
  fun d hd => ⟨d, h ▸ (List.mem_filter.mp hd).1, rfl, rfl⟩

/-- A call that enters keeps its node, and so do the others. -/
theorem keepsNodes_enter (e : Engine) (c : Call) :
    KeepsNodes e (e.enter c).2 := by
  unfold enter
  split
  · split
    · exact keepsNodes_close rfl c _
    · rename_i x _
      obtain ⟨e', hsame, -, ⟨outcome, -, heq, -⟩ | ⟨request, -, heq, -⟩⟩ :=
        e.prepare_cases c x
      · rw [heq]
        exact keepsNodes_close hsame.calls c outcome
      · rw [heq]
        intro d hd
        obtain ⟨b, hb, rfl⟩ := List.mem_map.mp hd
        exact ⟨b, hsame.calls ▸ hb, by simp⟩
  · exact .refl e

/-- A new call comes last, under the number that is next. -/
theorem arrive_calls (e : Engine) (v : Handle) :
    (e.arrive v).2.calls = e.calls ++ [(e.arrive v).1]
      ∧ (e.arrive v).1.id = e.nextCall := by
  unfold arrive
  rcases e.lockFor_cases v with ⟨l, -, hlock⟩ | ⟨-, hlock⟩ <;>
    (rw [hlock]; exact ⟨rfl, rfl⟩)

/-- Once it has arrived, a new call keeps its node. -/
theorem keepsNodes_start (e : Engine) (v : Handle) :
    KeepsNodes (e.arrive v).2 (e.start v).2.2 := by
  unfold start
  simp only
  split
  · exact keepsNodes_close rfl _ _
  · exact keepsNodes_enter _ _

/-- A call was there before, on the same node, or has been made just now. -/
theorem mem_calls_perform (hd : d ∈ (e.perform a).calls) :
    (∃ c ∈ e.calls, c.id = d.id ∧ c.node = d.node)
      ∨ (a = .start d.node ∧ d.id = e.nextCall) := by
  cases a with
  | start v =>
      obtain ⟨c, hc, hid, hnode⟩ := e.keepsNodes_start v d hd
      obtain ⟨hcalls, hnext⟩ := e.arrive_calls v
      -- the call is a new one, or was there before
      rw [hcalls] at hc
      rcases List.mem_append.mp hc with hc | hc
      · exact Or.inl ⟨c, hc, hid, hnode⟩
      · obtain rfl := List.mem_singleton.mp hc
        rw [← hid, ← hnode]
        exact Or.inr ⟨rfl, hnext⟩
  | resume id =>
      refine Or.inl ?_
      change d ∈ (e.resume id).2.calls at hd
      -- going on, like a reply, makes no call
      unfold resume at hd
      split at hd
      · exact e.keepsNodes_enter _ d hd
      · exact KeepsNodes.refl e d hd
  | reply id answer =>
      refine Or.inl ?_
      change d ∈ (e.reply id answer).2.calls at hd
      unfold reply at hd
      split at hd
      · rename_i v _ x _
        exact keepsNodes_close (e.resolve_settle v x answer).2.1.calls _ _
          d hd
      · exact KeepsNodes.refl e d hd
  | select v =>
      refine Or.inl ?_
      change d ∈ (e.select v).2.calls at hd
      unfold select at hd
      split at hd <;> exact KeepsNodes.refl e d hd

end Engine

/-! ## Exports -/

/-- Values are not exported, so nothing else is than before. -/
theorem Workbench.SameButValues.snapshot {w w' : Workbench}
    (h : w.SameButValues w') : w'.snapshot = w.snapshot := by
  unfold Workbench.snapshot
  rw [h.registry, ← Graph.toJson_blank w'.graph, h.blank, Graph.toJson_blank]

/-- A host saves its export and nothing else. -/
theorem Host.save_congr {m : Type → Type} [Monad m] [Files m] {h h' : Host}
    (hsame : h'.bench.snapshot = h.bench.snapshot) (path : String) :
    (h'.save path : m _) = h.save path := by
  unfold Host.save
  rw [hsame]

namespace Engine

open Workbench (SameButValues)

/-- By induction over the actions: none of them changes more than values and
    marks. -/
theorem performs_same (e : Engine) (as : List Action) :
    e.bench.SameButValues (as.foldl perform e).bench := by
  induction as generalizing e with
  | nil => exact .refl _
  | cons a rest ih => exact (e.perform_same a).trans (ih _)

section Running

variable {m : Type → Type} [Monad m] [LawfulMonad m] {β : Type}
  {respond : Request → m Reply}

/-- What comes after a call may rely on it that the workflow is the same. -/
theorem execute_bind_congr (e : Engine) (v : Handle)
    {f g : Option Outcome × Engine → m β}
    (h : ∀ r, e.bench.SameButValues r.2.bench → f r = g r) :
    execute respond e v >>= f = execute respond e v >>= g := by
  have hstart := e.start_same v
  unfold execute
  -- a call that does not wait ends at once, and what follows sees where it has
  -- led
  split
  · rename_i heq
    rw [heq] at hstart
    rw [pure_bind, pure_bind, h _ hstart]
  · rename_i heq
    rw [heq] at hstart
    rw [pure_bind, pure_bind, h _ hstart]
  · rename_i id request e' heq
    rw [heq] at hstart
    rw [bind_assoc, bind_assoc]
    -- what follows a reply sees where both steps have led
    refine bind_congr (fun answer => ?_)
    have hreply := hstart.trans (e'.reply_same id answer)
    split
    · rename_i hend
      rw [hend] at hreply
      rw [pure_bind, pure_bind, h _ hreply]
    · rename_i hwaits
      rw [hwaits] at hreply
      rw [pure_bind, pure_bind, h _ hreply]

/-- What follows a pass may rely on a workbench that is the same but for
    values. -/
theorem executeEach_bind_congr (e : Engine) (nodes : List Handle)
    {f g : List (Handle × Outcome) × Engine → m β}
    (h : ∀ r, e.bench.SameButValues r.2.bench → f r = g r) :
    executeEach respond e nodes >>= f = executeEach respond e nodes >>= g := by
  induction nodes generalizing e f g with
  | nil =>
      unfold executeEach
      rw [pure_bind, pure_bind, h _ (.refl _)]
  | cons v rest ih =>
      unfold executeEach
      rw [bind_assoc, bind_assoc]
      refine e.execute_bind_congr v (fun r hr => ?_)
      rw [bind_assoc, bind_assoc]
      refine ih r.2 (fun s hs => ?_)
      rw [pure_bind, pure_bind]
      exact h _ (hr.trans hs)

end Running
end Engine

/-- What follows a run of a host may rely on a workbench that is the same but
    for values. -/
theorem Host.run_bind_congr {m : Type → Type} [Monad m] [LawfulMonad m]
    [Programs m] {β : Type} (h : Host) {f g : List NodeReport × Host → m β}
    (hfg : ∀ r, h.bench.SameButValues r.2.bench → f r = g r) :
    h.run >>= f = h.run >>= g := by
  unfold Host.run
  rw [bind_assoc, bind_assoc]
  refine Engine.executeEach_bind_congr h.engine _ (fun r hr => ?_)
  rw [pure_bind, pure_bind]
  exact hfg _ hr

/-! ## Running and saving -/

namespace CommandLine

variable {m : Type → Type} [Monad m] [Files m] [Programs m]

/-- Open a workflow, run it, and save it the way it was opened. -/
def runKept (config : AppConfig) (clock : Timestamp) (workflow : String) :
    m Performance := do
  match ← Host.load config clock workflow with
  | .error e => pure (.failed e)
  | .ok h =>
      let (reports, _) ← h.run
      let printed :=
        Performance.ofJson (.arr (reports.map NodeReport.toJson))
      pure (printed.andThen (← h.save workflow))

/-- A run that saves at its end saves what was opened. -/
theorem performRun_eq_runKept [LawfulMonad m] (config : AppConfig)
    (clock : Timestamp) (workflow : String) :
    (performRun config clock workflow true : m Performance)
      = runKept config clock workflow := by
  unfold performRun runKept
  refine bind_congr (fun loaded => ?_)
  cases loaded with
  | error e => rfl
  | ok h =>
      refine h.run_bind_congr (fun r hr => ?_)
      obtain ⟨reports, h'⟩ := r
      simp only [if_true]
      rw [Host.save_congr hr.snapshot]

end CommandLine

/-! ## Whatever happens in between -/

namespace Engine

/-- What execution leaves alone.  Nothing is assumed of the engine: between
    two steps of its calls anything may have happened to its workbench. -/
structure Confined (e : Engine) : Prop where
  /-- A step of a call changes values and mark of one node at most. -/
  node : ∀ a v, e.place a = some v → e.bench.SameBut v (e.perform a).bench
  /-- That node is the one that the call was made for. -/
  triggered : ∀ a, ∀ d ∈ (e.perform a).calls,
    (∃ c ∈ e.calls, c.id = d.id ∧ c.node = d.node)
      ∨ (a = .start d.node ∧ d.id = e.nextCall)
  /-- If it is not live, nothing changes. -/
  gone : ∀ a v, e.place a = some v → e.bench.graph.contains v = false →
    (e.perform a).bench = e.bench
  /-- Nor does anything that is no step of a call change anything. -/
  nowhere : ∀ a, e.place a = none → (e.perform a).bench = e.bench
  /-- Steps do not show in an export. -/
  snapshot : ∀ as : List Action,
    (as.foldl perform e).bench.snapshot = e.bench.snapshot
  /-- A reply for a node that was removed comes too late, whatever has been
      done to the workbench since, as long as its handle has not been given
      again. -/
  late : ∀ (w w' : Workbench) (v : Handle), v ≤ w.graph.lastHandle →
    Relation.ReflTransGen (Workbench.Onward v) (w.removeNode v).2 w' →
    ∀ id c, e.call? id = some c → c.node = v →
    ∀ answer, (({ e with bench := w' } : Engine).reply id answer).2.bench = w'

/-- Every run is confined. -/
theorem confined (e : Engine) : e.Confined where
  node _ _ := perform_sameBut
  triggered _ _ := mem_calls_perform
  gone _ _ hv hdead := (perform_sameBut hv).eq hdead
  nowhere _ := perform_bench_of_nowhere
  snapshot as := (e.performs_same as).snapshot
  late _ w' v hgiven honward _ c hc hnode answer := by
    have hretired := (Workbench.retired_removeNode hgiven).onward honward
    have hsame := reply_sameBut (e := { e with bench := w' }) hc answer
    exact hsame.eq (hnode ▸ hretired.gone)

/-- Execution changes nothing but values and marks, each step those of the
    node of its call, and a workflow that is run and saved is saved the way it
    was opened. -/
theorem execution_confined :
    (∀ e : Engine, e.Confined)
      ∧ ∀ (m : Type → Type) [Monad m] [LawfulMonad m] [Files m] [Programs m]
          (config : AppConfig) (clock : Timestamp) (workflow : String),
        (CommandLine.performRun config clock workflow true : m _)
          = CommandLine.runKept config clock workflow :=
  ⟨confined, fun _ _ _ _ _ => CommandLine.performRun_eq_runKept⟩

/-- A sum is removed while it runs, what is left is exported and read again,
    and another sum is added. -/
theorem execution_confined_removed :
    let w : Workbench :=
      ⟨{}, { templates := Table.empty.insert "math/sum" Template.sum }⟩
    let w₁ := (w.addNode "math/sum").2
    let e := ({ bench := w₁ } : Engine).perform (.start 1)
    let w₂ := (w₁.removeNode 1).2
    let w₃ := ((w₂.configure w₂.snapshot).2.addNode "math/sum").2
    let answer : Reply := .ok (.single (.bool true))
    let e' := e.perform (.reply 0 answer)
    e.place (.reply 0 answer) = some 1 ∧ e.bench.SameBut 1 e'.bench
      ∧ e'.bench.graph.outputData? 1 0 = some (.bool true)
      ∧ e'.bench.snapshot = e.bench.snapshot
      ∧ (e.call? 0).isSome = true ∧ w₃.graph.nodes.keys = [2]
      ∧ (({ e with bench := w₃ } : Engine).reply 0 answer).2.bench = w₃
      ∧ (CommandLine.performRun {} ⟨0, 0⟩ "sums.json" true : StateM FileTree _)
        = CommandLine.runKept {} ⟨0, 0⟩ "sums.json" := by
  intro w w₁ e w₂ w₃ answer e'
  have hcall : e.call? 0 = some ⟨0, 1, 0, w₁.registry.recordOf? 1⟩ := by
    decide
  -- the export tells which handle was given last, so the import counts on
  have hread : Workbench.Onward 1 w₂ (w₂.configure w₂.snapshot).2 :=
    .configure _ (by decide +kernel) (by decide +kernel)
  have honward : Relation.ReflTransGen (Workbench.Onward 1) w₂ w₃ :=
    .tail (.single hread)
      (.step (.addNode "math/sum" (by decide +kernel)) (by decide +kernel))
  obtain ⟨hsteps, hrun⟩ := execution_confined
  have hplace : e.place (.reply 0 answer) = some 1 := by decide
  exact ⟨hplace, (hsteps e).node _ _ hplace, by decide,
    (hsteps e).snapshot [.reply 0 answer], by rw [hcall]; rfl,
    by decide +kernel,
    (hsteps e).late w₁ w₃ 1 (by decide) honward 0 _ hcall rfl answer,
    hrun _ _ _ _⟩

/-- A reply for a node that was removed is not always too late.  A clear sets
    the count of handles back, the next node is given the handle of the one
    that was removed, and the reply is written to its outputs. -/
theorem not_always_late :
    ¬ ∀ (e : Engine) (w : Workbench) (v : Handle), Run e →
      e.bench.graph.contains v = true →
      Relation.ReflTransGen Workbench.Change (e.bench.removeNode v).2 w →
      ∀ id c, e.call? id = some c → c.node = v → ∀ answer,
        (({ e with bench := w } : Engine).reply id answer).2.bench = w := by
  intro hall
  let b₀ : Workbench :=
    ⟨{}, { templates := Table.empty.insert "math/sum" Template.sum }⟩
  let b := (b₀.addNode "math/sum").2
  let e := ({ bench := b } : Engine).perform (.start 1)
  let w₁ := (e.bench.removeNode 1).2
  let w := (w₁.clear.addNode "math/sum").2
  have hrun : Run e := .act (.quiet ⟨rfl, rfl, fun _ => rfl⟩) (.start 1)
  have hchange : Relation.ReflTransGen Workbench.Change w₁ w :=
    .tail (.single (.step .clear)) (.step (.addNode "math/sum" (by decide)))
  have hlate := hall e w 1 hrun (by decide) hchange 0
    ⟨0, 1, 0, b.registry.recordOf? 1⟩ (by decide) rfl
    (.ok (.single (.bool true)))
  -- the new node held nothing, and holds the reply now
  exact absurd (congrArg (fun b => b.graph.outputData? 1 0) hlate) (by decide)

end Engine
end NodeFlow
