import NodeFlow.Execution.Engine
import NodeFlow.Proofs.Decimal
import NodeFlow.Proofs.Graph.Order

/-! # What reaches a node

    A cycle takes the values that links carry to its node, each under the
    place of the input that it reaches.  `Graph.Carries` says so link by link,
    whatever the order of the links; `carries_collectInputs` shows that this
    is what a cycle takes. -/

namespace NodeFlow

namespace Graph

variable {g g' : Graph} {v : Handle} {t u : Table String Json}

/-- Whether a table holds what links carry to a node: under the place of each
    input that has a link the value of the output at its other end, if that
    holds one, and nothing else. -/
def Carries (g : Graph) (v : Handle) (t : Table String Json) : Prop :=
  ∀ key value, t.get? key = some value ↔
    ∃ l ∈ g.links, l.target = v ∧ key = Engine.inputKey l.targetSlot
      ∧ g.outputData? l.source l.sourceSlot = some value

/-- Links carry one table. -/
theorem Carries.unique (ht : g.Carries v t) (hu : g.Carries v u) : t = u :=
  Table.ext_get? (fun key => Option.ext (fun value => by
    rw [ht key value, hu key value]))

/-- What links carry depends on the outputs that they start at. -/
theorem Carries.congr (ht : g.Carries v t)
    (hlinks : ∀ l, l ∈ g'.links ↔ l ∈ g.links)
    (hvalues : ∀ l ∈ g.links, l.target = v →
      g'.outputData? l.source l.sourceSlot
        = g.outputData? l.source l.sourceSlot) : g'.Carries v t := by
  intro key value
  rw [ht key value]
  constructor
  · rintro ⟨l, hl, htarget, hkey, hvalue⟩
    exact ⟨l, (hlinks l).mpr hl, htarget, hkey,
      (hvalues l hl htarget).trans hvalue⟩
  · rintro ⟨l, hl, htarget, hkey, hvalue⟩
    have hl := (hlinks l).mp hl
    exact ⟨l, hl, htarget, hkey, (hvalues l hl htarget).symm.trans hvalue⟩

/-- An input has one link. -/
theorem WellFormed.eq_of_enters (h : g.WellFormed) {k l : Link}
    (hk : k ∈ g.links) (hl : l ∈ g.links) (htarget : k.target = l.target)
    (hslot : k.targetSlot = l.targetSlot) : k = l := by
  have hall := List.Pairwise.forall_of_forall_of_flip
    (R := fun k l : Link =>
      k.target = l.target ∧ k.targetSlot = l.targetSlot → k = l)
    (l := g.links) (fun _ _ _ => rfl)
    (h.single.imp (fun hne heq => absurd heq hne))
    (h.single.imp (fun hne heq => absurd ⟨heq.1.symm, heq.2.symm⟩ hne))
  exact hall hk hl ⟨htarget, hslot⟩

/-- An input of a node holds what a link brings there, if no two links end at
    one input of the node. -/
theorem inputData?_eq_some_iff_of_single {i : Nat} {value : Json}
    (hsingle : ∀ k ∈ g.links, ∀ l ∈ g.links, k.target = v → l.target = v →
      k.targetSlot = l.targetSlot → k = l) :
    g.inputData? v i = some value ↔
      ∃ l ∈ g.links, l.target = v ∧ l.targetSlot = i
        ∧ g.outputData? l.source l.sourceSlot = some value := by
  unfold inputData?
  constructor
  · intro hvalue
    obtain ⟨l, hfind, hvalue⟩ := Option.bind_eq_some_iff.mp hvalue
    have henters := List.find?_some hfind
    simp only [Link.enters, Bool.and_eq_true, beq_iff_eq] at henters
    exact ⟨l, List.mem_of_find?_eq_some hfind, henters.1, henters.2, hvalue⟩
  · rintro ⟨l, hl, htarget, hslot, hvalue⟩
    have henters : l.enters v i = true := by
      simp [Link.enters, htarget, hslot]
    have hsome : (g.links.find? (fun l => l.enters v i)).isSome = true :=
      List.find?_isSome.mpr ⟨l, hl, henters⟩
    obtain ⟨k, hk⟩ := Option.isSome_iff_exists.mp hsome
    have hkenters := List.find?_some hk
    simp only [Link.enters, Bool.and_eq_true, beq_iff_eq] at hkenters
    -- the link that is found is the one that brings the value
    have hkl : k = l := hsingle k (List.mem_of_find?_eq_some hk) l hl
      hkenters.1 htarget (hkenters.2.trans hslot.symm)
    rw [hk, hkl]
    exact hvalue

theorem WellFormed.inputData?_eq_some_iff (h : g.WellFormed) {i : Nat}
    {value : Json} :
    g.inputData? v i = some value ↔
      ∃ l ∈ g.links, l.target = v ∧ l.targetSlot = i
        ∧ g.outputData? l.source l.sourceSlot = some value :=
  inputData?_eq_some_iff_of_single (fun _ hk _ hl hkv hlv hslot =>
    h.eq_of_enters hk hl (hkv.trans hlv.symm) hslot)

end Graph

namespace Workbench

variable {w w' : Workbench}

/-- Whether the links into a live node with a record end at inputs that the
    node has. -/
def Docked (w : Workbench) : Prop :=
  ∀ l ∈ w.graph.links, ∀ n, w.graph.nodes.get? l.target = some n →
    (w.registry.recordOf? l.target).isSome = true →
      l.targetSlot < n.inputs.length

/-- Whether no two links end at one input of a live node with a record. -/
def Unshared (w : Workbench) : Prop :=
  ∀ k ∈ w.graph.links, ∀ l ∈ w.graph.links,
    w.graph.contains l.target = true →
      (w.registry.recordOf? l.target).isSome = true →
        k.target = l.target → k.targetSlot = l.targetSlot → k = l

instance (w : Workbench) : Decidable w.Docked :=
  decidable_of_iff
    (∀ l ∈ w.graph.links, ∀ n ∈ w.graph.nodes.get? l.target,
      (w.registry.recordOf? l.target).isSome = true →
        l.targetSlot < n.inputs.length)
    (by simp only [Option.mem_def]; rfl)

instance (w : Workbench) : Decidable w.Unshared :=
  inferInstanceAs
    (Decidable (∀ k ∈ w.graph.links, ∀ l ∈ w.graph.links, _))

/-- Whether links feed the live nodes. -/
structure Fed (w : Workbench) : Prop where
  /-- A link into a live node comes from a live node. -/
  source : w.graph.Grounded
  /-- If there is a record of the node, it ends at an input. -/
  input : w.Docked
  /-- No other link ends there. -/
  single : w.Unshared

/-- In a well-formed graph all links do so, whatever the records are. -/
theorem fed_of_wellFormed (h : w.graph.WellFormed) : w.Fed where
  source := h.grounded
  input _ hl _ hn _ := h.targetSlot_lt hl hn rfl
  single _ hk _ hl _ _ := h.eq_of_enters hk hl

/-- Whether links feed the live nodes does not depend on their order, nor on
    anything of a node but the number of its inputs. -/
theorem Fed.congr (h : w.Fed) (hregistry : w'.registry = w.registry)
    (hlinks : ∀ l, l ∈ w'.graph.links ↔ l ∈ w.graph.links)
    (hnodes : ∀ v, (w'.graph.nodes.get? v).map (fun n => n.inputs.length)
      = (w.graph.nodes.get? v).map (fun n => n.inputs.length)) : w'.Fed := by
  have hlive : ∀ v, w'.graph.contains v = w.graph.contains v := by
    intro v
    unfold Graph.contains Table.contains
    rw [← Option.isSome_map (f := fun n : LiveNode => n.inputs.length), hnodes,
      Option.isSome_map]
  constructor
  · intro l hl
    rw [hlive, hlive]
    exact h.source l ((hlinks l).mp hl)
  · intro l hl n hn
    rw [hregistry]
    have hinputs := hnodes l.target
    rw [hn, Option.map_some] at hinputs
    obtain ⟨m, hm, hlength⟩ := Option.map_eq_some_iff.mp hinputs.symm
    exact hlength ▸ h.input l ((hlinks l).mp hl) m hm
  · intro k hk l hl
    rw [hlive, hregistry]
    exact h.single k ((hlinks k).mp hk) l ((hlinks l).mp hl)

end Workbench

namespace Engine

variable {w : Workbench} {v : Handle} {x : Record}

theorem inputKey_inj {i j : Nat} (h : inputKey i = inputKey j) : i = j :=
  toString_inj.mp ((String.append_right_inj _).mp h)

/-- A cycle takes what links carry to its node. -/
theorem carries_collectInputs (h : w.Fed) {n : LiveNode}
    (hn : w.graph.nodes.get? v = some n)
    (hx : w.registry.recordOf? v = some x) :
    w.graph.Carries v (collectInputs w.graph v x) := by
  have hrecord : (w.registry.recordOf? v).isSome = true := by
    rw [hx, Option.isSome_some]
  -- two links that enter the same input of the node are one
  have hsingle : ∀ k ∈ w.graph.links, ∀ l ∈ w.graph.links, k.target = v →
      l.target = v → k.targetSlot = l.targetSlot → k = l := by
    intro k hk l hl hkv hlv
    have hlive : w.graph.contains l.target = true :=
      Graph.contains_iff.mpr ⟨n, hlv ▸ hn⟩
    exact h.single k hk l hl hlive (hlv ▸ hrecord) (hkv.trans hlv.symm)
  have hcount : ((w.graph.inputs? v).getD x.liveInputs).length
      = n.inputs.length := by
    simp [Graph.inputs?, hn]
  -- different places have different keys, so no value replaces another one
  have hnodup : (((List.range n.inputs.length).filterMap
      (fun i => (w.graph.inputData? v i).map
        (fun value => (inputKey i, value)))).map (·.1)).Nodup := by
    rw [List.Nodup, List.pairwise_map]
    refine List.Pairwise.filterMap _ (fun i j hij a ha b hb => ?_)
      List.nodup_range
    obtain ⟨_, _, rfl⟩ := Option.map_eq_some_iff.mp ha
    obtain ⟨_, _, rfl⟩ := Option.map_eq_some_iff.mp hb
    exact fun heq => hij (inputKey_inj heq)
  intro key value
  unfold collectInputs
  simp only [hcount]
  rw [Table.get?_ofList_eq_some_iff hnodup, List.mem_filterMap]
  constructor
  · -- what is collected under a key has come over the link into that place
    rintro ⟨i, -, hi⟩
    obtain ⟨brought, hbrought, heq⟩ := Option.map_eq_some_iff.mp hi
    cases heq
    obtain ⟨l, hl, htarget, hslot, hvalue⟩ :=
      (Graph.inputData?_eq_some_iff_of_single hsingle).mp hbrought
    exact ⟨l, hl, htarget, by rw [hslot], hvalue⟩
  · -- a value at a place reaches the input there, as the node has it
    rintro ⟨l, hl, htarget, hkey, hvalue⟩
    have hvalue := (Graph.inputData?_eq_some_iff_of_single hsingle).mpr
      ⟨l, hl, htarget, rfl, hvalue⟩
    have hlt := h.input l hl n (htarget ▸ hn) (htarget ▸ hrecord)
    refine ⟨l.targetSlot, List.mem_range.mpr hlt, ?_⟩
    rw [hvalue, hkey]
    rfl

end Engine
end NodeFlow
