import Mathlib.Tactic.ByContra
import NodeFlow.Backend.Result
import NodeFlow.Proofs.Decode

/-! # What the outputs get

    Code returns one value, and every output of its node gets something of it
    or nothing.  `Gives` says what, output by output and rule by rule, by the
    members of the value alone; sorting the value and resolving it comes to
    that (`resolve_classify`).

    A marked object may address outputs by place or by name.  Names and places
    share one set of keys, so values go astray when an output has the name of
    another one's place, or that of the mark; nothing else can go wrong
    (`faithful_iff`). -/

namespace NodeFlow

/-- The member of an object with a key; other values have no members. -/
def Json.member? (v : Json) (key : String) : Option Json :=
  match v with
  | .obj members => (tableOf members).get? key
  | _ => none

namespace Json

/-- The members of a table are those of its object. -/
@[simp] theorem member?_ofTable (t : Table String Json) (key : String) :
    (ofTable t).member? key = t.get? key := by
  show (tableOf t.entries).get? key = _
  rw [tableOf_entries]

/-- Only objects have members. -/
theorem exists_obj_of_member? {v x : Json} {key : String}
    (h : v.member? key = some x) :
    ∃ members, v = .obj members ∧ (tableOf members).get? key = some x := by
  cases v with
  | obj members => exact ⟨members, rfl, h⟩
  | _ => cases h

/-- What is not null is kept. -/
theorem nonNull?_of_ne {v : Json} (h : v ≠ .null) : v.nonNull? = some v := by
  cases v with
  | null => exact absurd rfl h
  | _ => rfl

/-- What is kept is not null. -/
theorem nonNull?_ne_null (v : Json) : v.nonNull? ≠ some .null := by
  cases v <;> simp [nonNull?]

end Json

namespace Result

variable {v : Json} {ports : List Port}

/-! ## One output -/

/-- What one output gets of a result. -/
def output (r : Result) (i : Nat) (p : Port) : Option Json :=
  match r with
  | .empty | .error _ => none
  | .value v | .single v => v.nonNull?
  | .named outputs => namedOutput outputs i p

/-- Each output gets what the result gives to its place and port. -/
theorem getElem?_resolve (r : Result) (ports : List Port) (i : Nat) :
    (r.resolve ports)[i]? = ports[i]?.map (r.output i) := by
  cases r <;> simp only [resolve, List.getElem?_map, List.getElem?_mapIdx] <;>
    rfl

/-- An output gets a value or nothing. -/
theorem output_ne_null (r : Result) (i : Nat) (p : Port) :
    r.output i p ≠ some .null := by
  cases r with
  | empty => simp [output]
  | error detail => simp [output]
  | value v => exact v.nonNull?_ne_null
  | single v => exact v.nonNull?_ne_null
  | named outputs =>
      intro h
      obtain ⟨v, -, hv⟩ := Option.bind_eq_some_iff.mp h
      exact v.nonNull?_ne_null hv

/-! ## What a value says -/

/-- Whether a value carries a mark. -/
def Marked (v : Json) (mark : String) : Prop :=
  v.member? markKey = some (.str mark)

/-- Whether a value says that the code failed: its `error` is exactly `true`,
    and it is marked as a value to take as it is, or it has a detail and is
    not marked as outputs by name. -/
def SaysError (v : Json) : Prop :=
  v.member? "error" = some (.bool true)
    ∧ (Marked v valueMark
      ∨ ((∃ x, v.member? "detail" = some x)
          ∨ ∃ x, v.member? "details" = some x)
        ∧ ¬ Marked v outputsMark)

/-- A value carries one mark at most. -/
theorem Marked.unique {mark mark' : String} (h : Marked v mark)
    (h' : Marked v mark') : mark = mark' := by
  unfold Marked at h h'
  rw [h] at h'
  cases h'
  rfl

/-- What output `i`, of port `p`, gets of what code returned. -/
inductive Gives (i : Nat) (p : Port) : Option Json → Option Json → Prop where
  /-- Nothing was returned. -/
  | missing : Gives i p none none
  /-- Neither is `null` a value. -/
  | null : Gives i p (some .null) none
  /-- The code failed. -/
  | error {v : Json} (h : SaysError v) : Gives i p (some v) none
  /-- The place of the output goes first, and `null` there is no value. -/
  | byPlace {v x : Json} (h : Marked v outputsMark)
      (hx : v.member? (outputKey i) = some x) : Gives i p (some v) x.nonNull?
  /-- Then its name counts. -/
  | byName {v : Json} (h : Marked v outputsMark)
      (hplace : v.member? (outputKey i) = none) (hname : p.name ≠ markKey) :
      Gives i p (some v) ((v.member? p.name).bind Json.nonNull?)
  /-- The mark is no value of an output. -/
  | mark {v : Json} (h : Marked v outputsMark)
      (hplace : v.member? (outputKey i) = none) (hname : p.name = markKey) :
      Gives i p (some v) none
  /-- A marked value is taken as it is. -/
  | marked {v : Json} (h : Marked v valueMark) (hfine : ¬ SaysError v) :
      Gives i p (some v) ((v.member? "result").bind Json.nonNull?)
  /-- So is any other one. -/
  | whole {v : Json} (hnull : v ≠ .null) (hvalue : ¬ Marked v valueMark)
      (houtputs : ¬ Marked v outputsMark) (hfine : ¬ SaysError v) :
      Gives i p (some v) (some v)

/-! ## Sorting -/

/-- An object carries a mark exactly if the member for marks is that text. -/
theorem marked_obj_iff {members : List (String × Json)} {mark : String} :
    Marked (.obj members) mark
      ↔ ((Json.tableOf members).get? markKey).bind Json.asString?
        = some mark := by
  show (Json.tableOf members).get? markKey = some (.str mark) ↔ _
  cases (Json.tableOf members).get? markKey with
  | none => simp
  | some x => cases x <;> simp [Json.asString?]

/-- An object reports an error exactly if its `error` is `true`; no other
    value will do. -/
theorem reportsError_iff {object : Table String Json} :
    reportsError object = true
      ↔ object.get? "error" = some (.bool true) :=
  beq_iff_eq

/-- What says that the code failed is an error, whatever its detail is. -/
theorem classify_of_saysError (h : SaysError v) :
    ∃ detail, classify (some v) = .error detail := by
  obtain ⟨herror, hwhy⟩ := h
  obtain ⟨members, rfl, hget⟩ := Json.exists_obj_of_member? herror
  have hreports := reportsError_iff.mpr hget
  show ∃ detail, classifyObject members = .error detail
  unfold classifyObject
  simp only
  rcases hwhy with hvalue | ⟨hdetail, houtputs⟩
  · rw [if_pos (marked_obj_iff.mp hvalue), if_pos hreports]
    exact ⟨_, rfl⟩
  · -- a mark that is not one of the two makes no difference
    have hcontains : ((Json.tableOf members).contains "detail"
        || (Json.tableOf members).contains "details") = true := by
      rw [Bool.or_eq_true, Table.contains_iff, Table.contains_iff]
      exact hdetail
    by_cases hvalue : Marked (.obj members) valueMark
    · rw [if_pos (marked_obj_iff.mp hvalue), if_pos hreports]
      exact ⟨_, rfl⟩
    · rw [if_neg (mt marked_obj_iff.mpr hvalue),
        if_neg (mt marked_obj_iff.mpr houtputs), hreports, hcontains]
      exact ⟨_, rfl⟩

/-- Outputs by name are all members but the mark. -/
theorem classify_of_outputs (h : Marked v outputsMark) :
    ∃ outputs, classify (some v) = .named outputs
      ∧ ∀ key, outputs.get? key
        = if key = markKey then none else v.member? key := by
  obtain ⟨members, rfl, -⟩ := Json.exists_obj_of_member? h
  have hvalue : ¬ Marked (.obj members) valueMark := fun hvalue =>
    absurd (hvalue.unique h) (by decide)
  refine ⟨(Json.tableOf members).erase markKey, ?_, fun key => ?_⟩
  · show classifyObject members = _
    unfold classifyObject
    simp only
    rw [if_neg (mt marked_obj_iff.mpr hvalue), if_pos (marked_obj_iff.mp h)]
  · rw [Table.get?_erase]
    rfl

/-- What is marked as a value is its result, or null without one. -/
theorem classify_of_value (h : Marked v valueMark) (hfine : ¬ SaysError v) :
    classify (some v) = .value ((v.member? "result").getD .null) := by
  obtain ⟨members, rfl, -⟩ := Json.exists_obj_of_member? h
  have hreports : ¬ reportsError (Json.tableOf members) = true :=
    fun hreports => hfine ⟨reportsError_iff.mp hreports, Or.inl h⟩
  show classifyObject members = _
  unfold classifyObject
  simp only
  rw [if_pos (marked_obj_iff.mp h), if_neg hreports]
  rfl

/-- A value without a mark that reports no error is taken as it is. -/
theorem classify_of_other (hnull : v ≠ .null) (hvalue : ¬ Marked v valueMark)
    (houtputs : ¬ Marked v outputsMark) (hfine : ¬ SaysError v) :
    classify (some v) = .single v := by
  cases v with
  | null => exact absurd rfl hnull
  | obj members =>
      have hplain : ¬ (reportsError (Json.tableOf members)
          && ((Json.tableOf members).contains "detail"
            || (Json.tableOf members).contains "details")) = true := by
        rw [Bool.and_eq_true, Bool.or_eq_true, Table.contains_iff,
          Table.contains_iff, reportsError_iff]
        rintro ⟨herror, hdetail⟩
        exact hfine ⟨herror, Or.inr ⟨hdetail, houtputs⟩⟩
      show classifyObject members = _
      unfold classifyObject
      simp only
      rw [if_neg (mt marked_obj_iff.mpr hvalue),
        if_neg (mt marked_obj_iff.mpr houtputs), if_neg hplain]
  | _ => rfl

/-! ## Every output -/

/-- No key of an output is the one for marks. -/
theorem outputKey_ne_markKey (i : Nat) : outputKey i ≠ markKey := by
  intro h
  have hfirst := congrArg (fun s : String => s.toList.head?) h
  simp [outputKey, markKey] at hfirst

/-- Every rule is kept. -/
theorem Gives.output_eq {r : Option Json} {i : Nat} {p : Port}
    {x : Option Json} (h : Gives i p r x) : (classify r).output i p = x := by
  cases h with
  | missing => rfl
  | null => rfl
  | error h =>
      -- an error has no output, whatever its detail
      obtain ⟨detail, heq⟩ := classify_of_saysError h
      rw [heq]
      rfl
  | byPlace h hx =>
      -- the key of an output is never the key of the mark, so the mark is no
      -- output
      obtain ⟨outputs, heq, hget⟩ := classify_of_outputs h
      rw [heq]
      simp [output, namedOutput, hget, outputKey_ne_markKey, hx]
  | byName h hplace hname =>
      obtain ⟨outputs, heq, hget⟩ := classify_of_outputs h
      rw [heq]
      simp [output, namedOutput, hget, outputKey_ne_markKey, hplace, hname]
  | mark h hplace hname =>
      obtain ⟨outputs, heq, hget⟩ := classify_of_outputs h
      rw [heq]
      simp [output, namedOutput, hget, outputKey_ne_markKey, hplace, hname]
  | marked h hfine =>
      rw [classify_of_value h hfine]
      cases hresult : Json.member? _ "result" <;> rfl
  | whole hnull hvalue houtputs hfine =>
      rw [classify_of_other hnull hvalue houtputs hfine]
      exact Json.nonNull?_of_ne hnull

/-- There is a rule for every value. -/
theorem exists_gives (r : Option Json) (i : Nat) (p : Port) :
    ∃ x, Gives i p r x := by
  cases r with
  | none => exact ⟨_, .missing⟩
  | some v =>
      by_cases hnull : v = .null
      · subst hnull
        exact ⟨_, .null⟩
      by_cases herror : SaysError v
      · exact ⟨_, .error herror⟩
      by_cases houtputs : Marked v outputsMark
      · cases hplace : v.member? (outputKey i) with
        | some x => exact ⟨_, .byPlace houtputs hplace⟩
        | none =>
            by_cases hname : p.name = markKey
            · exact ⟨_, .mark houtputs hplace hname⟩
            · exact ⟨_, .byName houtputs hplace hname⟩
      by_cases hvalue : Marked v valueMark
      · exact ⟨_, .marked hvalue herror⟩
      · exact ⟨_, .whole hnull hvalue houtputs herror⟩

/-- There is one. -/
theorem Gives.unique {r : Option Json} {i : Nat} {p : Port}
    {x y : Option Json} (h : Gives i p r x) (h' : Gives i p r y) : x = y :=
  h.output_eq.symm.trans h'.output_eq

/-- What an output gets is what the rules give it, and nothing else. -/
theorem output_eq_iff {r : Option Json} {i : Nat} {p : Port}
    {x : Option Json} : (classify r).output i p = x ↔ Gives i p r x := by
  constructor
  · rintro rfl
    obtain ⟨x, hx⟩ := exists_gives r i p
    rwa [hx.output_eq]
  · exact Gives.output_eq

/-- What code returned is resolved to one entry for every output, none of them
    `null`, and each of them what the rules say. -/
theorem resolve_classify (r : Option Json) (ports : List Port) :
    ((classify r).resolve ports).length = ports.length
      ∧ (∀ x ∈ (classify r).resolve ports, x ≠ some .null)
      ∧ ∀ i p, ports[i]? = some p → ∀ x,
        ((classify r).resolve ports)[i]? = some x ↔ Gives i p r x := by
  refine ⟨length_resolve _ _, fun x hx => ?_, fun i p hp x => ?_⟩
  · obtain ⟨i, hi⟩ := List.mem_iff_getElem?.mp hx
    rw [getElem?_resolve] at hi
    obtain ⟨p, -, rfl⟩ := Option.map_eq_some_iff.mp hi
    exact output_ne_null _ i p
  · rw [getElem?_resolve, hp, Option.map_some, Option.some_inj, output_eq_iff]

/-- Outputs by name that also look like an error, to an output with the name
    of the mark and to one whose place is given as `null`. -/
example :
    (classify (some (.obj [("detail", .str "d"), ("error", .bool true),
      (markKey, .str outputsMark), ("output_1", .null),
      ("b", .bool true)]))).resolve [⟨markKey, "any", none⟩, ⟨"b", "any", none⟩]
      = [none, none] := by
  decide +kernel

/-! ## Outputs by name -/

/-- Whether an object says that it gives outputs by name, gives each of them a
    value under its name, and has no other members. -/
structure GivesByName (v : Json) (ports : List Port) : Prop where
  /-- It carries the mark. -/
  mark : Marked v outputsMark
  /-- It has a value for every output. -/
  each : ∀ p ∈ ports, ∃ x, v.member? p.name = some x ∧ x ≠ .null
  /-- It has no other members. -/
  only : ∀ key x, v.member? key = some x →
    key = markKey ∨ ∃ p ∈ ports, p.name = key

/-- The object that gives outputs by name, each the value that `f` has for the
    name. -/
def byName (f : String → Json) (ports : List Port) : Json :=
  .ofTable ((Table.ofList (ports.map (fun p => (p.name, f p.name)))).insert
    markKey (.str outputsMark))

/-- The members of such an object are its mark and the values of its
    outputs. -/
theorem member?_byName (f : String → Json)
    (hnames : (ports.map Port.name).Nodup) {key : String} {x : Json} :
    (byName f ports).member? key = some x
      ↔ if key = markKey then x = .str outputsMark
        else (∃ p ∈ ports, p.name = key) ∧ x = f key := by
  have hkeys : ((ports.map (fun p => (p.name, f p.name))).map (·.1)).Nodup := by
    rw [List.map_map]
    exact hnames
  rw [byName, Json.member?_ofTable, Table.get?_insert]
  split
  · rw [Option.some_inj, eq_comm]
  · rw [Table.get?_ofList_eq_some_iff hkeys, List.mem_map]
    constructor
    · rintro ⟨p, hp, heq⟩
      cases heq
      exact ⟨⟨p, hp, rfl⟩, rfl⟩
    · rintro ⟨⟨p, hp, rfl⟩, rfl⟩
      exact ⟨p, hp, rfl⟩

/-- Such an object gives outputs by name, if no value is null. -/
theorem givesByName_byName {f : String → Json} (hf : ∀ name, f name ≠ .null)
    (hnames : (ports.map Port.name).Nodup) :
    GivesByName (byName f ports) ports where
  mark := (member?_byName f hnames).mpr (by rw [if_pos rfl])
  each p hp := by
    by_cases hmark : p.name = markKey
    · exact ⟨.str outputsMark,
        (member?_byName f hnames).mpr (by rw [if_pos hmark]), nofun⟩
    · exact ⟨f p.name,
        (member?_byName f hnames).mpr (by
          rw [if_neg hmark]
          exact ⟨⟨p, hp, rfl⟩, rfl⟩), hf _⟩
  only key x hx := by
    have hx := (member?_byName f hnames).mp hx
    split at hx
    · exact Or.inl ‹_›
    · exact Or.inr hx.1

/-- Whether every object that gives outputs by name is resolved so that each
    output gets what is under its name. -/
def Faithful (ports : List Port) : Prop :=
  ∀ v, GivesByName v ports →
    (classify (some v)).resolve ports = ports.map (fun p => v.member? p.name)

/-- Objects with values that tell outputs apart show what goes wrong. -/
theorem Faithful.gives (h : Faithful ports) {f : String → Json}
    (hf : ∀ name, f name ≠ .null) (hnames : (ports.map Port.name).Nodup)
    {i : Nat} {p : Port} (hp : ports[i]? = some p) :
    Gives i p (some (byName f ports)) ((byName f ports).member? p.name) := by
  have hi := congrArg (fun l => l[i]?) (h _ (givesByName_byName hf hnames))
  simp only [getElem?_resolve, List.getElem?_map, hp, Option.map_some,
    Option.some_inj] at hi
  exact output_eq_iff.mp hi

/-- An output with the name of the mark gets nothing, or what is under its
    place, instead of the mark. -/
theorem Faithful.name_ne_markKey (h : Faithful ports)
    (hnames : (ports.map Port.name).Nodup) : ∀ p ∈ ports, p.name ≠ markKey := by
  intro p hp hname
  obtain ⟨i, hi⟩ := List.mem_iff_getElem?.mp hp
  let f : String → Json := fun _ => .bool true
  have hf : ∀ name, f name ≠ .null := fun _ => nofun
  have hmark := (givesByName_byName hf hnames).mark
  have hgot := h.gives hf hnames hi
  rw [hname, hmark] at hgot
  cases hplace : (byName f ports).member? (outputKey i) with
  | none => exact nomatch hgot.unique (.mark hmark hplace hname)
  | some x =>
      have hx := (member?_byName f hnames).mp hplace
      rw [if_neg (outputKey_ne_markKey i)] at hx
      obtain ⟨-, rfl⟩ := hx
      exact nomatch hgot.unique (.byPlace hmark hplace)

/-- An output gets what was meant for another one that is named like its
    place. -/
theorem Faithful.eq_of_name (h : Faithful ports)
    (hnames : (ports.map Port.name).Nodup) {i k : Nat} (hi : i < ports.length)
    (hk : k < ports.length) (hname : ports[i].name = outputKey k) : i = k := by
  by_contra hne
  let f : String → Json := fun name => .bool (name == outputKey k)
  have hf : ∀ name, f name ≠ .null := fun _ => nofun
  have hmark := (givesByName_byName hf hnames).mark
  have hplace : (byName f ports).member? (outputKey k)
      = some (.bool true) := by
    rw [member?_byName f hnames, if_neg (outputKey_ne_markKey k)]
    exact ⟨⟨_, List.getElem_mem hi, hname⟩, by simp [f]⟩
  -- the output itself has another name, so its value is another one
  have hother : ports[k].name ≠ outputKey k := by
    intro heq
    have hlt : i < (ports.map Port.name).length := by
      rwa [List.length_map]
    refine hne ((List.getElem?_inj hlt hnames).mp ?_)
    simp [hi, hk, hname, heq]
  have hown : (byName f ports).member? ports[k].name
      = some (.bool false) := by
    rw [member?_byName f hnames, if_neg
      (h.name_ne_markKey hnames _ (List.getElem_mem hk))]
    exact ⟨⟨_, List.getElem_mem hk, rfl⟩, by simp [f, hother]⟩
  have hgot := h.gives hf hnames (List.getElem?_eq_getElem hk)
  rw [hown] at hgot
  exact nomatch hgot.unique (.byPlace hmark hplace)

/-- Outputs are told apart by name if none has the name for marks, nor that of
    another place. -/
theorem faithful_of_names (hmark : ∀ p ∈ ports, p.name ≠ markKey)
    (hplaces : ∀ i (hi : i < ports.length), ∀ k < ports.length,
      ports[i].name = outputKey k → i = k) : Faithful ports := by
  intro v hv
  refine List.ext_getElem? (fun i => ?_)
  rw [getElem?_resolve, List.getElem?_map]
  cases hp : ports[i]? with
  | none => rfl
  | some p =>
      rw [Option.map_some, Option.map_some, Option.some_inj, output_eq_iff]
      have hmem := List.mem_of_getElem? hp
      obtain ⟨hi, rfl⟩ := List.getElem?_eq_some_iff.mp hp
      obtain ⟨x, hx, hxnull⟩ := hv.each _ hmem
      rw [hx, ← Json.nonNull?_of_ne hxnull]
      cases hplace : v.member? (outputKey i) with
      | none =>
          have hgives := Gives.byName hv.mark hplace (hmark _ hmem)
          rwa [hx, Option.bind_some] at hgives
      | some y =>
          -- only the output itself can be named like its place
          obtain heq | ⟨q, hq, hqname⟩ := hv.only _ _ hplace
          · exact absurd heq (outputKey_ne_markKey i)
          obtain ⟨j, hj, rfl⟩ := List.mem_iff_getElem.mp hq
          obtain rfl := hplaces j hj i hi hqname
          rw [hqname, hplace] at hx
          cases hx
          exact .byPlace hv.mark hplace

/-- Returning outputs by name is faithful, whatever their values are, if and
    only if no output is named like the mark, and none like the place of
    another one. -/
theorem faithful_iff (hnames : (ports.map Port.name).Nodup) :
    Faithful ports
      ↔ (∀ p ∈ ports, p.name ≠ markKey)
        ∧ ∀ i (hi : i < ports.length), ∀ k < ports.length,
          ports[i].name = outputKey k → i = k :=
  ⟨fun h => ⟨h.name_ne_markKey hnames,
    fun _ hi _ hk hname => h.eq_of_name hnames hi hk hname⟩,
    fun h => faithful_of_names h.1 h.2⟩

/-- An output may be named like its own place, like one that does not exist,
    or like one with a zero in front; two may not be named like the places of
    each other. -/
theorem faithful_own_place :
    let fair : List Port := [⟨"sum", "any", none⟩, ⟨"output_1", "any", none⟩,
      ⟨"output_00", "any", none⟩, ⟨"output_4", "any", none⟩]
    let swapped : List Port :=
      [⟨"output_1", "any", none⟩, ⟨"output_0", "any", none⟩]
    (fair.map Port.name).Nodup ∧ Faithful fair
      ∧ (swapped.map Port.name).Nodup ∧ ¬ Faithful swapped := by
  intro fair swapped
  have hfair : (fair.map Port.name).Nodup := by decide
  have hswapped : (swapped.map Port.name).Nodup := by decide
  refine ⟨hfair, (faithful_iff hfair).mpr ⟨by decide, by decide +kernel⟩,
    hswapped, fun h => ?_⟩
  have hplace := ((faithful_iff hswapped).mp h).2 0 (by decide) 1 (by decide)
  exact absurd (hplace (by decide +kernel)) (by decide)

end Result
end NodeFlow
