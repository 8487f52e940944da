import NodeFlow.Proofs.Backend.Inputs
import NodeFlow.Proofs.Editor.Starter
import NodeFlow.Proofs.Execution.Moves
import NodeFlow.Proofs.Workbench.Reachable

/-! # One numbering of inputs

    Records list their inputs, live nodes have slots that links end at,
    backends receive keys or variables, and starters name inputs line by line.
    Each of them counts by itself.  In every workbench that can be reached
    they count alike (`Reachable.aligned`), whatever inputs have been added
    and removed and however nodes have been restructured and linked. -/

namespace NodeFlow

/-- Whether a link brings a value to an input: that of the output at its other
    end. -/
def Graph.Brings (g : Graph) (v : Handle) (i : Nat) (value : Json) : Prop :=
  ∃ l ∈ g.links, l.target = v ∧ l.targetSlot = i
    ∧ g.outputData? l.source l.sourceSlot = some value

theorem Graph.Carries.get?_eq_some_iff {g : Graph} {v : Handle}
    {t : Table String Json} (h : g.Carries v t) (key : String)
    (value : Json) :
    t.get? key = some value ↔
      ∃ i, key = Engine.inputKey i ∧ g.Brings v i value := by
  rw [h key value]
  constructor
  · rintro ⟨l, hl, htarget, hkey, hvalue⟩
    exact ⟨l.targetSlot, hkey, l, hl, htarget, rfl, hvalue⟩
  · rintro ⟨i, hkey, l, hl, htarget, rfl, hvalue⟩
    exact ⟨l, hl, htarget, hkey, hvalue⟩

/-- A link that brings a value ends at an input. -/
theorem Graph.WellFormed.lt_of_brings {g : Graph} (h : g.WellFormed)
    {v : Handle} {n : LiveNode} (hn : g.nodes.get? v = some n) {i : Nat}
    {value : Json} (hb : g.Brings v i value) : i < n.inputs.length := by
  obtain ⟨l, hl, htarget, rfl, -⟩ := hb
  exact h.targetSlot_lt hl hn htarget

/-- An input is brought one value. -/
theorem Graph.WellFormed.brings_unique {g : Graph} (h : g.WellFormed)
    {v : Handle} {i : Nat} {a b : Json} (ha : g.Brings v i a)
    (hb : g.Brings v i b) : a = b := by
  obtain ⟨k, hk, hktarget, hkslot, hkvalue⟩ := ha
  obtain ⟨l, hl, hltarget, hlslot, hlvalue⟩ := hb
  have hkl := h.eq_of_enters hk hl (hktarget.trans hltarget.symm)
    (hkslot.trans hlslot.symm)
  rw [hkl, hlvalue] at hkvalue
  exact (Option.some.inj hkvalue).symm

/-- The backend of a record is the one that its kind of code selects. -/
theorem Record.backend?_eq_some_iff {x : Record} {b : Backend} :
    x.backend? = some b ↔ Backend.select (x.codeType?.getD "") = .ok b := by
  have hnone : Backend.select "" = .error (.unknownBackend "") := by decide
  have htoOption (r : Except Failure Backend) :
      r.toOption = some b ↔ r = .ok b := by
    cases r <;> simp [Except.toOption]
  unfold backend?
  cases x.codeType? with
  | none => simp [hnone]
  | some codeType => exact htoOption (Backend.select codeType)

/-! ## Requests for a node -/

namespace Engine

variable {e : Engine} {c : Call} {v : Handle} {x : Record}
  {request : Request}

/-- Whether a step of a call on a node asks a backend. -/
inductive Asks (e : Engine) (v : Handle) (request : Request) : Prop where
  /-- A new call asks at once. -/
  | start (h : (e.start v).2.1 = .asks request)
  /-- A call asks that has waited. -/
  | resume {id : CallId} {c : Call} (hc : e.call? id = some c)
      (hnode : c.node = v) (h : (e.resume id).1 = .asks request)

/-- Whether a request is that for the code of a record on the values that
    reach a node. -/
def RequestFor (e : Engine) (v : Handle) (x : Record) (request : Request) :
    Prop :=
  ∃ b, x.backend? = some b
    ∧ Request.ofCode e.surroundings b x.code
        (collectInputs e.bench.graph v x) = .ok request

/-- A cycle asks exactly for what its record and its inputs say. -/
theorem prepare_eq_asks_iff :
    (e.prepare c x).1 = .asks request ↔ e.RequestFor c.node x request := by
  unfold prepare RequestFor
  simp only [Record.backend?_eq_some_iff]
  cases Backend.select (x.codeType?.getD "") with
  | error failure => simp [close]
  | ok b =>
      simp only [Except.ok.injEq, exists_eq_left']
      -- a cycle changes neither the surroundings nor the graph so far
      split
      · rename_i failure hrequest
        have hrequest : Request.ofCode e.surroundings b x.code
          (collectInputs e.bench.graph c.node x) = .error failure := hrequest
        simp [hrequest, close]
      · rename_i asked hrequest
        have hrequest : Request.ofCode e.surroundings b x.code
          (collectInputs e.bench.graph c.node x) = .ok asked := hrequest
        simp [hrequest]

/-- What a call asks for is taken from record and inputs of its node. -/
theorem requestFor_of_enter (h : (e.enter c).1 = .asks request) :
    ∃ x, e.bench.registry.recordOf? c.node = some x
      ∧ e.RequestFor c.node x request := by
  unfold enter at h
  split at h
  · split at h
    · cases h
    · rename_i x hx
      exact ⟨x, hx, prepare_eq_asks_iff.mp h⟩
  · cases h

theorem Asks.requestFor (h : e.Asks v request) :
    ∃ x, e.bench.registry.recordOf? v = some x
      ∧ e.RequestFor v x request := by
  cases h with
  | start h =>
      unfold Engine.start at h
      simp only at h
      split at h
      · cases h
      · obtain ⟨x, hx, b, hb, hrequest⟩ := requestFor_of_enter h
        rw [arrive_bench, arrive_node] at hx hrequest
        rw [(e.arrive_settings v).2] at hrequest
        exact ⟨x, hx, b, hb, hrequest⟩
  | resume hc hnode h =>
      unfold Engine.resume at h
      rw [hc] at h
      subst hnode
      split at h
      · rename_i heq
        cases heq
        exact requestFor_of_enter h
      · cases h

/-- A call on a node without other calls asks, if there is a request. -/
theorem asks_of_requestFor (h : e.Lined) (hfree : ∀ d ∈ e.calls, d.node ≠ v)
    (hx : e.bench.registry.recordOf? v = some x)
    (hrequest : e.RequestFor v x request) :
    (e.start v).2.1 = .asks request := by
  obtain ⟨hstart, howns⟩ := start_alone h hfree
  rw [hstart, enter, if_pos howns, arrive_bench, arrive_node, hx]
  refine prepare_eq_asks_iff.mpr ?_
  unfold RequestFor
  rwa [arrive_bench, arrive_node, (e.arrive_settings v).2]

end Engine

/-! ## Every component -/

namespace Workbench

open Engine (Asks Lined)

/-- What the parts of the program say about the inputs of a live node and its
    record. -/
structure Aligned (w : Workbench) (v : Handle) (n : LiveNode) (x : Record) :
    Prop where
  /-- The node leads to the record. -/
  record : w.registry.recordOf? v = some x
  /-- The inputs of the node are the static ones of the record, then the
      dynamic ones, where an option that is `null` is none. -/
  ports : n.inputs.map Port.reread
    = (x.inputs ++ x.dynamicInputs).map Port.reread
  /-- Without such options they are the same. -/
  same : (∀ p ∈ n.inputs, p.Kept) →
    (∀ p ∈ x.inputs ++ x.dynamicInputs, p.Kept) →
    n.inputs = x.inputs ++ x.dynamicInputs
  /-- Values are brought to inputs. -/
  within : ∀ i value, w.graph.Brings v i value → i < n.inputs.length
  /-- Each of them is brought one value. -/
  single : ∀ i a b, w.graph.Brings v i a → w.graph.Brings v i b → a = b
  /-- A call on the node hands over what is brought, each value by its place,
      whatever other calls there are. -/
  handed : ∀ (e : Engine) request, e.bench = w → e.Asks v request →
    request.Hands (w.graph.Brings v) ∧ x.backend? = some request.backend
  /-- A call asks if the record has a backend, and the shell a program. -/
  asked : ∀ (e : Engine) b, e.bench = w → e.Lined →
    (∀ c ∈ e.calls, c.node ≠ v) → x.backend? = some b →
    (b = .shell →
      (ShellProgram.ofPlatform? e.surroundings.platform).isSome = true) →
    ∃ request, e.Asks v request ∧ request.backend = b
  /-- Where the code is empty, its view names every input in the line of its
      place, unless a name breaks lines. -/
  named : x.code = "" →
    (∀ p ∈ x.inputs ++ x.dynamicInputs ++ x.outputs, '\n' ∉ p.name.toList) →
    ∀ b, x.backend? = some b → ∀ i p, n.inputs[i]? = some p →
      (Text.lines (x.viewText .code))[i]?
        = some (Starter.naming b p.name i)

variable {w : Workbench} {v : Handle} {n : LiveNode} {x : Record}

theorem map_reread_of_kept {ps : List Port} (h : ∀ p ∈ ps, p.Kept) :
    ps.map Port.reread = ps := by
  rw [List.map_congr_left (fun p hp => (h p hp).reread), List.map_id']

/-- Where a live node shows its record, code, inputs and view count ports
    alike. -/
theorem aligned_of_shows (hg : w.graph.WellFormed)
    (hn : w.graph.nodes.get? v = some n)
    (hx : w.registry.recordOf? v = some x) (hshow : n.Shows Port.reread x) :
    w.Aligned v n x where
  record := hx
  ports := hshow.inputs
  same hin hlive := by
    have hports := hshow.inputs
    rwa [map_reread_of_kept hin, Record.liveInputs,
      map_reread_of_kept hlive] at hports
  within _ _ := hg.lt_of_brings hn
  single _ _ _ := hg.brings_unique
  handed e request he hasks := by
    subst he
    obtain ⟨y, hy, b, hb, hrequest⟩ := hasks.requestFor
    obtain rfl := Option.some.inj (hx.symm.trans hy)
    obtain ⟨rfl, hhands⟩ := Request.hands_ofCode
      (Engine.carries_collectInputs (Workbench.fed_of_wellFormed hg) hn
        hx).get?_eq_some_iff hrequest
    exact ⟨hhands, hb⟩
  asked e b he hlined hfree hb hshell := by
    subst he
    obtain ⟨request, hrequest⟩ := Request.exists_ofCode hshell x.code
      (Engine.collectInputs e.bench.graph v x)
    have hbackend := Request.hands_ofCode
      (Engine.carries_collectInputs (Workbench.fed_of_wellFormed hg) hn
        hx).get?_eq_some_iff hrequest
    exact ⟨request, .start (Engine.asks_of_requestFor hlined hfree hx
      ⟨b, hb, hrequest⟩), hbackend.1⟩
  named hcode hnames b hb i p hp := by
    -- the record has a port with this name in the same place
    have hplace := congrArg (fun ps => ps[i]?) hshow.inputs
    simp only [List.getElem?_map, hp, Option.map_some] at hplace
    obtain ⟨q, hq, hqp⟩ := Option.map_eq_some_iff.mp hplace.symm
    have hname : q.name = p.name := by
      show q.reread.name = p.reread.name
      rw [hqp]
    have hview : x.viewText .code
        = Starter.text (some b) x.liveInputs x.outputs := by
      simp [Record.viewText, hcode, hb]
    rw [hview, ← hname]
    exact Starter.getElem?_lines_text b
      (fun p hp => hnames p (List.mem_append_left _ hp))
      (fun p hp => hnames p (List.mem_append_right _ hp)) hq

/-- In every workbench that is reached records, live nodes, backends and
    starters count the inputs of a node alike. -/
theorem Reachable.aligned (h : Reachable (fun _ => True) w) :
    ∀ v n, w.graph.nodes.get? v = some n → ∃ x, w.Aligned v n x := by
  intro v n hn
  have hcons := h.consistent seen_reread
  obtain ⟨x, hx⟩ := Option.isSome_iff_exists.mp
    (h.covered seen_reread v (Graph.contains_iff.mpr ⟨n, hn⟩))
  obtain ⟨m, hm, hshow⟩ := hcons.shows v x hx
  obtain rfl := Option.some.inj (hn.symm.trans hm)
  exact ⟨x, aligned_of_shows hcons.graph hn hx hshow⟩

/-- The result of a sum is linked to the second input of a script without
    code, which got that input later. -/
theorem aligned_sum_and_script :
    let script :=
      Template.codeNode "javascript" "JavaScript" ⟨"input", "number", none⟩
        ⟨"output", "number", none⟩
    let templates := (Table.empty.insert "math/sum" Template.sum).insert
      "code/javascript" script
    let w : Workbench := ⟨{}, { templates := templates }⟩
    let w₁ := ((w.addNode "math/sum").2.addNode "code/javascript").2
    let w₂ := (w₁.addDynamicInput 2 "c" "number").2
    let w₃ : Workbench :=
      { w₂ with graph := attempt w₂.graph (w₂.graph.connect 1 0 2 1) }
    let e := ({ bench := w₃ } : Engine).perform (.start 1)
    let e' := e.perform (.reply 0 (.ok (.single (.bool true))))
    Reachable (fun _ => True) e'.bench
      ∧ (∃ n x, e'.bench.graph.nodes.get? 2 = some n
          ∧ n.inputs.map Port.name = ["input", "c"]
          ∧ e'.bench.Aligned 2 n x
          ∧ (Text.lines (x.viewText .code))[1]?
              = some "let c = inputs.input_1;")
      ∧ e'.bench.graph.Brings 2 1 (.bool true)
      ∧ ∃ request, e'.Asks 2 request ∧ request.backend = .script := by
  intro script templates w w₁ w₂ w₃ e e'
  have hempty : Reachable (fun _ => True) w :=
    .empty (fun _ _ _ => ⟨fun _ _ => trivial, fun _ _ => trivial⟩)
  have h₁ : Reachable (fun _ => True) w₁ :=
    (hempty.step (.addNode "math/sum" (by decide))).step
      (.addNode "code/javascript" (by decide))
  have h₃ : Reachable (fun _ => True) w₃ :=
    (h₁.step (.addDynamicInput 2 "c" "number")).step (.connect 1 0 2 1)
  have he : Reachable (fun _ => True) e'.bench :=
    (h₃.step (.run (e := { bench := w₃ }) rfl (.start 1))).step
      (.run rfl (.reply 0 _))
  have hlined : e'.Lined :=
    (Engine.Lined.move (.of_quiet ⟨rfl, rfl, fun _ => rfl⟩)
      (.act (.start 1))).move (.act (.reply 0 (.ok (.single (.bool true)))))
  obtain ⟨n, hn⟩ := Graph.contains_iff.mp
    (show e'.bench.graph.contains 2 = true by decide +kernel)
  obtain ⟨x, hx⟩ := he.aligned 2 n hn
  -- the record has the input that was added at run time after its own
  have hrecord : e'.bench.registry.recordOf? 2
      = some {
          id := "2", nodeType := "code/javascript", title := "JavaScript",
          properties := script.properties,
          inputs := [⟨"input", "number", none⟩],
          outputs := [⟨"output", "number", none⟩],
          dynamicInputs := [⟨"c", "number", none⟩] } := by decide +kernel
  obtain rfl := Option.some.inj (hx.record.symm.trans hrecord)
  -- so has the node, in the same order
  have hinputs : n.inputs
      = [⟨"input", "number", none⟩, ⟨"c", "number", none⟩] := by
    have hlive : e'.bench.graph.inputs? 2
        = some [⟨"input", "number", none⟩, ⟨"c", "number", none⟩] := by
      decide +kernel
    rw [Graph.inputs?, hn] at hlive
    exact Option.some.inj hlive
  refine ⟨he, ⟨n, _, hn, by rw [hinputs]; rfl, hx, ?_⟩,
    ⟨⟨1, 0, 2, 1⟩, by decide +kernel, rfl, rfl, by decide +kernel⟩, ?_⟩
  · exact hx.named (by decide +kernel) (by decide) .script
      (by decide +kernel) 1 _ (by rw [hinputs]; rfl)
  · exact hx.asked e' .script rfl hlined (by decide) (by decide +kernel) nofun

end Workbench
end NodeFlow
