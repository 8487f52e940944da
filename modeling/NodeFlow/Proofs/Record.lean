import NodeFlow.Registry

/-! # Records and their inputs

    The inputs of a record are told apart by their names.  This is why the
    registry, which takes away every dynamic input of a name, and the graph,
    which takes away the first input of that name, take away the same one. -/

namespace NodeFlow

/-- A port without its options. -/
def Port.bare (p : Port) : Port := { p with extra := none }

/-- Where names are distinct, the first port of a name is the only one. -/
theorem Port.eraseP_eq_filter {l : List Port} (h : (l.map Port.name).Nodup)
    (name : String) :
    l.eraseP (fun p => p.name == name)
      = l.filter (fun p => p.name != name) := by
  induction l with
  | nil => rfl
  | cons p rest ih =>
      rw [List.map_cons, List.nodup_cons] at h
      by_cases hp : p.name = name
      · -- no later port has the name
        have hrest : rest.filter (fun q => q.name != name) = rest := by
          refine List.filter_eq_self.mpr (fun q hq => ?_)
          have hne : q.name ≠ name := fun heq =>
            h.1 (List.mem_map.mpr ⟨q, hq, heq.trans hp.symm⟩)
          simpa using hne
        simp [hp, hrest]
      · simp [hp, ih h.2]

namespace Record

/-- Whether dynamic inputs are told apart from each other and from the static
    inputs by their names. -/
structure Distinct (x : Record) : Prop where
  /-- From each other. -/
  dynamic : (x.dynamicInputs.map Port.name).Nodup
  /-- From the static inputs. -/
  apart : ∀ d ∈ x.dynamicInputs, ∀ p ∈ x.inputs, d.name ≠ p.name

/-- Whether every port of a record is admissible. -/
structure Ports (ok : Port → Prop) (x : Record) : Prop where
  /-- The static inputs. -/
  inputs : ∀ p ∈ x.inputs, ok p
  /-- The dynamic inputs. -/
  dynamic : ∀ p ∈ x.dynamicInputs, ok p
  /-- The outputs. -/
  outputs : ∀ p ∈ x.outputs, ok p

/-- The record with one more dynamic input. -/
def withInput (name type : String) (x : Record) : Record :=
  { x with dynamicInputs := x.dynamicInputs ++ [⟨name, type, none⟩] }

/-- The record without the dynamic inputs of a name. -/
def withoutInput (name : String) (x : Record) : Record :=
  { x with dynamicInputs := x.dynamicInputs.filter (fun p => p.name != name) }

/-- What a change of a record leaves as it is or keeps up. -/
structure Revised (ok : Port → Prop) (x y : Record) : Prop where
  /-- The identifier stays. -/
  id : y.id = x.id
  /-- A record is not removed by a change. -/
  removed : y.removed = x.removed
  /-- Inputs stay apart. -/
  distinct : x.Distinct → y.Distinct
  /-- Ports stay admissible. -/
  ports : x.Ports ok → y.Ports ok

variable {ok : Port → Prop} {x : Record} {name : String}

theorem Revised.refl (x : Record) : x.Revised ok x :=
  ⟨rfl, rfl, fun h => h, fun h => h⟩

/-- Properties have no part in what is kept of a record. -/
theorem revised_withProperties (x : Record) (more : Table String Json) :
    x.Revised ok (x.withProperties more) :=
  ⟨rfl, rfl, fun h => ⟨h.dynamic, h.apart⟩,
    fun h => ⟨h.inputs, h.dynamic, h.outputs⟩⟩

/-- A dynamic input with a name of its own may be added. -/
theorem revised_withInput (hfree : x.hasInput name = false) {type : String}
    (hok : ok ⟨name, type, none⟩) : x.Revised ok (x.withInput name type) := by
  simp only [hasInput, liveInputs, List.any_append, Bool.or_eq_false_iff,
    List.any_eq_false, beq_iff_eq] at hfree
  refine ⟨rfl, rfl, fun h => ⟨?_, ?_⟩, fun h => ⟨h.inputs, ?_, h.outputs⟩⟩
  · -- the name is not among the dynamic inputs
    show ((x.dynamicInputs ++ [_]).map Port.name).Nodup
    rw [List.map_append, List.nodup_append]
    refine ⟨h.dynamic, List.pairwise_singleton _ _, ?_⟩
    intro a ha b hb hab
    obtain ⟨p, hp, rfl⟩ := List.mem_map.mp ha
    rw [List.mem_singleton.mp hb] at hab
    exact hfree.2 p hp hab
  · -- nor among the static ones
    intro d hd p hp
    rcases List.mem_append.mp hd with hd | hd
    · exact h.apart d hd p hp
    · rw [List.mem_singleton.mp hd]
      exact fun heq => hfree.1 p hp heq.symm
  · intro d hd
    rcases List.mem_append.mp hd with hd | hd
    · exact h.dynamic d hd
    · rw [List.mem_singleton.mp hd]
      exact hok

/-- A dynamic input may be taken away. -/
theorem revised_withoutInput (x : Record) (name : String) :
    x.Revised ok (x.withoutInput name) :=
  ⟨rfl, rfl,
    fun h => ⟨h.dynamic.sublist (List.filter_sublist.map _),
      fun d hd => h.apart d (List.mem_filter.mp hd).1⟩,
    fun h => ⟨h.inputs, fun d hd => h.dynamic d (List.mem_filter.mp hd).1,
      h.outputs⟩⟩

theorem revised_restructured (x : Record) (title : String)
    {ins outs : List Port} (hin : ∀ p ∈ ins, ok p) (hout : ∀ p ∈ outs, ok p) :
    x.Revised ok (Registry.restructured title ins outs x) := by
  refine ⟨rfl, rfl, fun h => ⟨?_, ?_⟩, fun h => ⟨hin, ?_, hout⟩⟩
  · exact h.dynamic.sublist (List.filter_sublist.map _)
  · -- a dynamic input is kept only if no new static one has its name
    intro d hd p hp heq
    have hkept := (List.mem_filter.mp hd).2
    simp only [Bool.not_eq_true', List.any_eq_false, beq_iff_eq] at hkept
    exact hkept p hp heq.symm
  · exact fun d hd => h.dynamic d (List.mem_filter.mp hd).1

/-- The first input of the name of a dynamic input is that dynamic input. -/
theorem Distinct.eraseP_liveInputs (h : x.Distinct)
    (hname : x.dynamicInputs.any (fun d => d.name == name) = true) :
    x.liveInputs.eraseP (fun p => p.name == name)
      = (x.withoutInput name).liveInputs := by
  obtain ⟨d, hd, hdn⟩ := List.any_eq_true.mp hname
  have hstatic : ∀ p ∈ x.inputs, ¬ (p.name == name) = true := by
    intro p hp hpn
    rw [beq_iff_eq] at hdn hpn
    exact h.apart d hd p hp (hdn.trans hpn.symm)
  unfold liveInputs
  rw [List.eraseP_append_right _ hstatic, Port.eraseP_eq_filter h.dynamic]
  rfl

/-- Without a dynamic input of a name none is taken away. -/
theorem withoutInput_of_unused
    (hname : ¬ x.dynamicInputs.any (fun d => d.name == name) = true) :
    x.withoutInput name = x := by
  rw [Bool.not_eq_true, List.any_eq_false] at hname
  have hall : x.dynamicInputs.filter (fun p => p.name != name)
      = x.dynamicInputs :=
    List.filter_eq_self.mpr (fun p hp => by simpa using hname p hp)
  rw [withoutInput, hall]

end Record
end NodeFlow
