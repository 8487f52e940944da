import NodeFlow.Proofs.Registry.Load
import NodeFlow.Proofs.Workbench.Shared

/-! # Saved code

    Code is saved under the identifier of a record and stays when the record
    is removed.  As identifiers are not given again, a new record has none,
    and what is saved for a record is the code of that record.

    An import is where this may break.  It takes in all saved code, but of the
    records only those that are not removed, and counts on from the greatest
    number among these.  Code that waits at a greater number is found by the
    record that gets it.  New records have no code exactly if every export
    that is imported is tidy (`Reached.new_without_code_iff`). -/

namespace NodeFlow

namespace Registry

variable {r r' : Registry} {id : String}

/-- Whether code that was saved for a record is the code of the record. -/
def Current (r : Registry) : Prop :=
  ∀ id s x, r.code.get? id = some s → r.records.get? id = some x →
    x.textProperty? Record.codeKey = some s.code

/-- What an operation leaves as it is or keeps up that adds no record. -/
structure Recoded (r r' : Registry) : Prop where
  /-- The number to try next stays. -/
  nextId : r'.nextId = r.nextId
  /-- There are records for the same identifiers. -/
  contains : ∀ id, r'.records.contains id = r.records.contains id
  /-- Code is saved for records only. -/
  code : ∀ id s, r'.code.get? id = some s →
    r.records.contains id = true ∨ r.code.get? id = some s
  /-- Saved code stays that of the record. -/
  current : r.Current → r'.Current

/-- Where nothing happens everything is kept up. -/
theorem Recoded.refl (r : Registry) : Recoded r r :=
  ⟨rfl, fun _ => rfl, fun _ _ h => Or.inr h, fun h => h⟩

/-- A change of a record that leaves its code alone. -/
theorem recoded_update (r : Registry) (id : String) {f : Record → Record}
    (hf : ∀ x, (f x).textProperty? Record.codeKey
      = x.textProperty? Record.codeKey) : Recoded r (r.update id f).2 where
  nextId := update_nextId _ _ _
  contains := r.contains_update id f
  code j s hs := Or.inr (by rwa [update_code] at hs)
  current h j s y hs hy := by
    rw [update_code] at hs
    rw [get?_update] at hy
    split at hy
    · rename_i hj
      obtain ⟨x, hx, rfl⟩ := Option.map_eq_some_iff.mp hy
      rw [hf]
      exact h j s x hs (hj ▸ hx)
    · exact h j s y hs hy

/-- A new dynamic input touches no code. -/
theorem recoded_addDynamicInput (r : Registry) (id name type : String) :
    Recoded r (r.addDynamicInput id name type).2 := by
  unfold addDynamicInput
  split
  · exact .refl r
  · split
    · exact .refl r
    · exact r.recoded_update id (fun _ => rfl)

/-- Taking a dynamic input away touches no code. -/
theorem recoded_removeDynamicInput (r : Registry) (id name : String) :
    Recoded r (r.removeDynamicInput id name).2 := by
  unfold removeDynamicInput
  split
  · exact .refl r
  · exact r.recoded_update id (fun _ => rfl)

/-- A record that is removed keeps its code, saved or not. -/
theorem recoded_remove (r : Registry) (v : Handle) :
    Recoded r (r.remove v).2 := by
  cases hv : r.index.get? v with
  | none =>
      rw [remove_of_none hv]
      exact .refl r
  | some id =>
      rw [remove_of_some hv]
      refine ⟨rfl, fun j => Table.contains_modify _ _ _ _,
        fun _ _ h => Or.inr h, fun h j s y hs hy => ?_⟩
      have hremoved : (r.remove v).2.records.get? j = some y := by
        rw [remove_of_some hv]
        exact hy
      obtain ⟨x, hx, rfl | rfl⟩ := Workbench.get?_remove_records hremoved
      · exact h j s _ hs hx
      · exact h j s x hs hx

/-- What one more text property does to the texts of a record. -/
theorem textProperty?_withProperties (x : Record) (key text k : String) :
    (x.withProperties (Table.ofList [(key, .str text)])).textProperty? k
      = if k = key then some text else x.textProperty? k := by
  show ((x.properties.insert key (.str text)).get? k).bind _ = _
  rw [Table.get?_insert]
  split <;> rfl

/-- Code is given to a record and saved for it in one go, so the two are the
    same. -/
theorem recoded_setCode (r : Registry) (id code language : String)
    (now : Timestamp) :
    Recoded r ((r.updateProperties id
      (Table.ofList [(Record.codeKey, .str code)])).2.saveCode id code
        language now).2 := by
  unfold saveCode updateProperties
  rw [contains_update]
  split
  · rename_i hid
    refine ⟨update_nextId _ _ _, r.contains_update _ _, fun j s hs => ?_,
      fun h j s y hs hy => ?_⟩
    · change (Table.insert _ id _).get? j = some s at hs
      rw [Table.get?_insert, update_code] at hs
      split at hs
      · rename_i hj
        exact Or.inl (hj ▸ hid)
      · exact Or.inr hs
    · change (Table.insert _ id _).get? j = some s at hs
      rw [Table.get?_insert, update_code] at hs
      change (r.update id _).2.records.get? j = some y at hy
      rw [get?_update] at hy
      -- the code of this record is what has just been saved for it
      by_cases hj : j = id
      · rw [if_pos hj] at hs hy
        cases hs
        obtain ⟨x, -, rfl⟩ := Option.map_eq_some_iff.mp hy
        rw [textProperty?_withProperties, if_pos rfl]
      · rw [if_neg hj] at hs hy
        exact h j s y hs hy
  · rename_i hid
    rw [update, if_neg hid]
    exact .refl r

end Registry

namespace Workbench

variable {ok : Port → Prop} {view : Port → Port} {w w' : Workbench}

/-! ## Operations -/

/-- On a workbench, too, code and saved code are the same. -/
theorem recoded_setCode (w : Workbench) (id code language : String)
    (now : Timestamp) :
    w.registry.Recoded (w.setCode id code language now).2.registry := by
  have h := w.registry.recoded_setCode id code language now
  unfold setCode
  generalize w.registry.updateProperties id
    (Table.ofList [(Record.codeKey, .str code)]) = result at h
  obtain ⟨found, registry⟩ := result
  cases found with
  | false => exact .refl _
  | true => exact h

/-- Giving a record a description touches no code. -/
theorem recoded_setDescription (w : Workbench) (id text : String) :
    w.registry.Recoded (w.setDescription id text).2.registry := by
  refine w.registry.recoded_update id (fun x => ?_)
  rw [Registry.textProperty?_withProperties, if_neg (by decide)]

/-- Giving a record title and ports touches no code. -/
theorem recoded_applyStructure (w : Workbench) (id title : String)
    (ins outs : List Port) :
    w.registry.Recoded (w.applyStructure id title ins outs).2.registry := by
  rw [applyStructure_snd]
  exact w.registry.recoded_update id (fun _ => rfl)

/-- Giving a node a dynamic input touches no code. -/
theorem recoded_addDynamicInput (w : Workbench) (v : Handle)
    (name type : String) :
    w.registry.Recoded (w.addDynamicInput v name type).2.registry := by
  unfold addDynamicInput
  split
  · exact .refl _
  · exact w.registry.recoded_addDynamicInput _ name type

/-- Taking a dynamic input from a node touches no code. -/
theorem recoded_removeDynamicInput (w : Workbench) (v : Handle)
    (name : String) :
    w.registry.Recoded (w.removeDynamicInput v name).2.registry := by
  unfold removeDynamicInput
  split
  · exact .refl _
  · exact w.registry.recoded_removeDynamicInput _ name

/-- Whatever an editor saves keeps code and saved code the same. -/
theorem recoded_saved (h : Desk.Saved w w') :
    w.registry.Recoded w'.registry := by
  cases h with
  | nothing => exact .refl _
  | outline => exact w.recoded_applyStructure _ _ _ _
  | code => exact w.recoded_setCode _ _ _ _
  | description => exact w.recoded_setDescription _ _

/-- Of the operations one adds a record and one takes all away. -/
theorem Step.cases_recoded (hs : Step ok w w') :
    w.registry.Recoded w'.registry
      ∨ (∃ nodeType, w.graph.lastHandle + 1 < Graph.handleLimit
          ∧ w' = (w.addNode nodeType).2)
      ∨ w' = w.clear := by
  cases hs with
  | addNode nodeType room => exact Or.inr (Or.inl ⟨nodeType, room, rfl⟩)
  | removeNode v => exact Or.inl (w.registry.recoded_remove v)
  | clear => exact Or.inr (Or.inr rfl)
  | addDynamicInput v name type =>
      exact Or.inl (w.recoded_addDynamicInput v name type)
  | removeDynamicInput v name =>
      exact Or.inl (w.recoded_removeDynamicInput v name)
  | applyStructure id title =>
      exact Or.inl (w.recoded_applyStructure id title _ _)
  | setCode id code language now =>
      exact Or.inl (w.recoded_setCode id code language now)
  | setDescription id text => exact Or.inl (w.recoded_setDescription id text)
  | connect s i t j => exact Or.inl (.refl _)
  | edit hd c =>
      subst hd
      exact Or.inl (recoded_saved (Desk.perform_saved _ c))
  | run he a =>
      subst he
      rw [(Engine.perform_same _ a).registry]
      exact Or.inl (.refl _)

/-- What adds no record gives no handle. -/
theorem Step.cases_numbered (h : w.Agreeing)
    (hs : Step (fun _ => True) w w') :
    (w.registry.Recoded w'.registry
        ∧ w'.graph.lastHandle = w.graph.lastHandle)
      ∨ (∃ nodeType, w.graph.lastHandle + 1 < Graph.handleLimit
          ∧ w' = (w.addNode nodeType).2)
      ∨ w' = w.clear := by
  rcases hs.cases_recoded with hrec | hother
  · obtain ht | hadd | ⟨v, rfl⟩ | hclear := hs.cases_touched seen_bare h
    · exact Or.inl ⟨hrec, ht.lastHandle⟩
    · exact Or.inr (Or.inl hadd)
    · refine Or.inl ⟨hrec, ?_⟩
      show (w.graph.removeNode v).2.lastHandle = _
      unfold Graph.removeNode
      split <;> rfl
    · exact Or.inr (Or.inr hclear)
  · exact Or.inr hother

/-! ## Numbers -/

/-- Whether a node can be added. -/
def HasRoom (w : Workbench) : Prop :=
  w.graph.lastHandle + 1 < Graph.handleLimit

instance (w : Workbench) : Decidable w.HasRoom :=
  inferInstanceAs (Decidable (_ < _))

/-- Whether records are counted, no further than handles are.  Numbers only
    matter as long as nodes can be added. -/
def Numbered (w : Workbench) : Prop :=
  w.HasRoom →
    w.registry.Counted ∧ w.registry.nextId ≤ w.graph.lastHandle + 1

/-- Records stay counted where none is added and no handle is given. -/
theorem Numbered.recoded (h : w.Numbered)
    (hr : w.registry.Recoded w'.registry)
    (hlast : w'.graph.lastHandle = w.graph.lastHandle) : w'.Numbered := by
  intro room
  rw [HasRoom, hlast] at room
  obtain ⟨hcount, hle⟩ := h room
  refine ⟨⟨hr.nextId ▸ hcount.positive, fun id hid => ?_⟩, ?_⟩
  · rw [hr.contains] at hid
    unfold Registry.Passed
    rw [hr.nextId]
    exact hcount.records id hid
  · rw [hr.nextId, hlast]
    exact hle

/-- On an empty workbench counting starts anew. -/
theorem numbered_clear (w : Workbench) : w.clear.Numbered := by
  intro _
  exact ⟨⟨Nat.one_pos, fun id hid => by cases hid⟩, Nat.le_refl 1⟩

/-- What a new record does to the others, to numbers and to saved code. -/
structure Extended (w w' : Workbench) (x : Record) : Prop where
  /-- The record has the number that was to be tried next. -/
  id : x.id = toString w.registry.nextId
  /-- The other records stay. -/
  records : ∀ id, w'.registry.records.get? id
    = if id = x.id then some x else w.registry.records.get? id
  /-- The next number is tried next. -/
  nextId : w'.registry.nextId = Registry.nextNumber w.registry.nextId
  /-- One handle is given. -/
  lastHandle : w'.graph.lastHandle = w.graph.lastHandle + 1
  /-- Saved code stays. -/
  code : w'.registry.code = w.registry.code

/-- Adding a node adds one record, with the number that is next, and gives one
    handle. -/
theorem Numbered.extended (h : w.Numbered) (hcons : w.Agreeing)
    (room : w.HasRoom) (nodeType : String) :
    Extended w (w.addNode nodeType).2 (w.addNode nodeType).1 := by
  have hcount := (h room).1
  have hfirst : (w.addNode nodeType).1
      = (w.registry.add (w.graph.lastHandle + 1) nodeType).1 := by
    rw [← Graph.addNode_fst w.graph nodeType (w.starting nodeType).1
      (w.starting nodeType).2.1 (w.starting nodeType).2.2 room]
    rfl
  have heq := Registry.add_eq hcons.registry hcons.index_fresh nodeType
  have hadd := hcons.registry.added hcons.index_fresh (hcons.room room) nodeType
  rw [hfirst, addNode_snd w nodeType room]
  constructor
  · rw [heq, Registry.newRecord_id, hcount.nextIdentifier_eq]
  · rw [heq] at hadd ⊢
    exact hadd.records
  · rw [heq, Registry.link_nextId, Registry.withNew, hcount.freshId_eq]
  · rw [Graph.addNode_snd _ _ _ _ _ room]
  · rw [heq, Registry.link_code]
    rfl

/-- The number after the one that is tried next is greater, as long as nodes
    can be added. -/
theorem Extended.nextId_eq {x : Record} (he : Extended w w' x)
    (hle : w.registry.nextId ≤ w.graph.lastHandle + 1) (room : w'.HasRoom) :
    w'.registry.nextId = w.registry.nextId + 1 := by
  rw [HasRoom, he.lastHandle] at room
  have hlt : w.registry.nextId + 1 < Registry.idLimit :=
    Nat.lt_of_le_of_lt (Nat.succ_le_succ hle) room
  rw [he.nextId, Registry.nextNumber, if_pos hlt]

/-- With one handle for one number, records stay counted. -/
theorem Numbered.extend {x : Record} (h : w.Numbered) (room : w.HasRoom)
    (he : Extended w w' x) : w'.Numbered := by
  intro room'
  obtain ⟨hcount, hle⟩ := h room
  have hnext := he.nextId_eq hle room'
  refine ⟨⟨by omega, fun id hid => ?_⟩, by rw [he.lastHandle]; omega⟩
  rw [Table.contains_iff] at hid
  obtain ⟨y, hy⟩ := hid
  rw [he.records] at hy
  split at hy
  · rename_i hx
    exact ⟨w.registry.nextId, hx.trans he.id, hcount.positive, by omega⟩
  · obtain ⟨n, hn, hpos, hlt⟩ :=
      hcount.records id (Table.contains_iff.mpr ⟨y, hy⟩)
    exact ⟨n, hn, hpos, by omega⟩

/-! ## Import -/

/-- What an export that is taken in brings. -/
structure Adopted (w w' : Workbench) (r : Registry) : Prop where
  /-- The records that are not removed, and their nodes. -/
  imported : Imported w'.registry r
  /-- All saved code. -/
  code : r.code = w'.registry.code
  /-- Numbers are counted on from those of the records. -/
  nextId : r.nextId
    = (w.registry.load w'.registry.live w'.registry.code).nextId

/-- An export is refused, or it is taken in as a whole. -/
theorem configure_cases (h' : w'.Agreeing) (w : Workbench) :
    (∃ e, w.configure w'.snapshot = (.error e, w))
      ∨ ∃ r, w.configure w'.snapshot = (.ok (), ⟨w'.graph.reread, r⟩)
          ∧ Adopted w w' r := by
  rcases h'.graph.configure_toJson with hg | ⟨e, hg⟩
  · obtain ⟨r, hr, hi, hcode, -⟩ := configure_of_read h' hg w
    refine Or.inr ⟨r, hr, hi, hcode, ?_⟩
    obtain ⟨r', hrestore, hrestored⟩ :=
      exists_restored h' w.registry w'.registry.code
    unfold configure snapshot at hr
    simp only [hg, hrestore] at hr
    cases hr
    exact hrestored.nextId
  · refine Or.inl ⟨e, ?_⟩
    unfold configure snapshot
    simp only [hg]

/-- The number to try next comes after those of the exported records. -/
theorem Adopted.lt_nextId_iff {r : Registry} (ha : Adopted w w' r)
    (h' : w'.Agreeing) (hnum : w'.Numbered) (room : w'.HasRoom) (m : Nat) :
    m < r.nextId ↔
      m < 1 ∨ ∃ x ∈ w'.registry.live, ∃ n, x.id = toString n ∧ m ≤ n := by
  obtain ⟨hcount, hle⟩ := hnum room
  rw [ha.nextId]
  refine Registry.lt_nextId_load_iff h'.registry.live_ids_nodup
    (fun x hx => ?_) _ m
  obtain ⟨hx, -⟩ := h'.registry.mem_live_iff.mp hx
  obtain ⟨n, hn, -, hlt⟩ :=
    hcount.records x.id (Table.contains_iff.mpr ⟨x, hx⟩)
  exact ⟨n, hn, Nat.lt_of_le_of_lt (Nat.le_trans hlt hle) room⟩

/-- Numbers that are counted on from the records of an export are no greater
    than those that the export had reached. -/
theorem Adopted.numbered {r : Registry} (ha : Adopted w w' r)
    (h' : w'.Agreeing) (hnum : w'.Numbered) :
    Numbered ⟨w'.graph.reread, r⟩ := by
  intro (room : w'.HasRoom)
  have hlt := ha.lt_nextId_iff h' hnum room
  obtain ⟨hcount, hle⟩ := hnum room
  refine ⟨⟨(hlt 0).mpr (Or.inl Nat.one_pos), fun id hid => ?_⟩, ?_⟩
  · obtain ⟨x, hx⟩ := Table.contains_iff.mp hid
    obtain ⟨hx, hrem⟩ := (ha.imported.records id x).mp hx
    have hname := h'.registry.named id x hx
    obtain ⟨n, hn, hpos, -⟩ :=
      hcount.records id (Table.contains_iff.mpr ⟨x, hx⟩)
    exact ⟨n, hn, hpos, (hlt n).mpr (Or.inr ⟨x,
      h'.registry.mem_live_iff.mpr ⟨hname.symm ▸ hx, hrem⟩, n,
      hname.trans hn, Nat.le_refl n⟩)⟩
  · -- otherwise the last number tried would be beyond that of any record
    by_contra hbeyond
    obtain hone | ⟨x, hx, n, hn, hmn⟩ :=
      (hlt (w'.graph.lastHandle + 1)).mp (Nat.lt_of_not_le hbeyond)
    · omega
    · obtain ⟨hx, -⟩ := h'.registry.mem_live_iff.mp hx
      obtain ⟨k, hk, -, hklt⟩ :=
        hcount.records x.id (Table.contains_iff.mpr ⟨x, hx⟩)
      rw [toString_inj.mp (hn.symm.trans hk)] at hmn
      omega

/-! ## Saved code -/

/-- Whether saved code is that of its record, and no code is saved for a
    number that is still to be given. -/
structure Settled (w : Workbench) : Prop where
  /-- Saved code is that of the record. -/
  current : w.registry.Current
  /-- Saved code has a number below the one to try next. -/
  code : w.HasRoom → ∀ id s, w.registry.code.get? id = some s →
    w.registry.Passed id

/-- Code stays settled where no record is added. -/
theorem Settled.recoded (h : w.Settled) (hnum : w.Numbered)
    (hr : w.registry.Recoded w'.registry)
    (hlast : w'.graph.lastHandle = w.graph.lastHandle) : w'.Settled := by
  refine ⟨hr.current h.current, fun room id s hs => ?_⟩
  rw [HasRoom, hlast] at room
  unfold Registry.Passed
  rw [hr.nextId]
  rcases hr.code id s hs with hid | hs
  · exact (hnum room).1.records id hid
  · exact h.code room id s hs

/-- Where there is no code it is settled. -/
theorem settled_clear (w : Workbench) : w.clear.Settled :=
  ⟨fun _ _ _ hs => (nomatch hs), fun _ _ _ hs => (nomatch hs)⟩

/-- No code is saved for the number to try next. -/
theorem Settled.get?_next (h : w.Settled) (room : w.HasRoom) :
    w.registry.code.get? (toString w.registry.nextId) = none := by
  cases hs : w.registry.code.get? (toString w.registry.nextId) with
  | none => rfl
  | some s => exact absurd (h.code room _ s hs) w.registry.not_passed_next

/-- The number of a new record is above those that code was saved for. -/
theorem Settled.extend {x : Record} (h : w.Settled) (hnum : w.Numbered)
    (room : w.HasRoom) (he : Extended w w' x) : w'.Settled := by
  obtain ⟨hcount, hle⟩ := hnum room
  constructor
  · intro id s y hs hy
    rw [he.code] at hs
    rw [he.records] at hy
    split at hy
    · rename_i hid
      rw [hid, he.id, h.get?_next room] at hs
      cases hs
    · exact h.current id s y hs hy
  · intro room' id s hs
    rw [he.code] at hs
    obtain ⟨n, hn, hpos, hlt⟩ := h.code room id s hs
    have hnext := he.nextId_eq hle room'
    exact ⟨n, hn, hpos, by omega⟩

/-- Whether code is saved only up to the greatest number of a record that is
    not removed. -/
def Tidy (w : Workbench) : Prop :=
  ∀ id s, w.registry.code.get? id = some s →
    ∃ x ∈ w.registry.live, ∃ m n : Nat,
      id = toString m ∧ x.id = toString n ∧ m ≤ n

/-- Code that is taken in with its record is still that of the record. -/
theorem Adopted.current {r : Registry} (ha : Adopted w w' r)
    (h : w'.registry.Current) : r.Current := by
  intro id s x hs hx
  rw [ha.code] at hs
  exact h id s x hs ((ha.imported.records id x).mp hx).1

/-- After an import no code is saved for a number that is still to be given
    exactly if the export was tidy. -/
theorem Adopted.settled_iff {r : Registry} (ha : Adopted w w' r)
    (h' : w'.Agreeing) (hnum : w'.Numbered) (hset : w'.Settled)
    (room : w'.HasRoom) :
    Settled ⟨w'.graph.reread, r⟩ ↔ w'.Tidy := by
  have hlt := ha.lt_nextId_iff h' hnum room
  constructor
  · intro h id s hs
    obtain ⟨m, rfl, hpos, hm⟩ := h.code room id s (by rwa [← ha.code] at hs)
    obtain hone | ⟨x, hx, n, hn, hmn⟩ := (hlt m).mp hm
    · omega
    · exact ⟨x, hx, m, n, rfl, hn, hmn⟩
  · intro htidy
    refine ⟨ha.current hset.current, fun _ id s hs => ?_⟩
    change r.code.get? id = some s at hs
    rw [ha.code] at hs
    obtain ⟨x, hx, m, n, rfl, hn, hmn⟩ := htidy id s hs
    obtain ⟨k, hk, hpos, -⟩ := hset.code room _ s hs
    rw [← toString_inj.mp hk] at hpos
    exact ⟨m, rfl, hpos, (hlt m).mpr (Or.inr ⟨x, hx, n, hn, hmn⟩)⟩

/-! ## Every history -/

/-- What operations lead to from an empty workbench if only some exports are
    imported. -/
inductive Reached (exports : Workbench → Prop) : Workbench → Prop where
  /-- Nothing has happened yet. -/
  | empty (templates : Table String Template) :
      Reached exports ⟨{}, { templates := templates }⟩
  /-- One more operation, with any ports. -/
  | step {w w' : Workbench} (h : Reached exports w)
      (hs : Step (fun _ => True) w w') : Reached exports w'
  /-- An import of what another workbench exports. -/
  | configure {w w' : Workbench} (h : Reached exports w)
      (h' : Reached exports w') (hw : exports w') :
      Reached exports (w.configure w'.snapshot).2

variable {exports : Workbench → Prop}

/-- Graph and records agree whatever exports are imported. -/
theorem Reached.agreeing (h : Reached exports w) : w.Agreeing := by
  have hshared : Shared Agreeing w := by
    induction h with
    | empty templates => exact .empty templates
    | step _ hs ih => exact ih.step hs
    | configure _ _ _ ih ih' => exact ih.configure ih'
  exact hshared.agreeing

/-- By induction: records are counted, no further than handles. -/
theorem Reached.numbered (h : Reached exports w) : w.Numbered := by
  induction h with
  | empty =>
      exact fun _ => ⟨⟨Nat.one_pos, fun _ h => (nomatch h)⟩, Nat.le_refl 1⟩
  | step h hs ih =>
      obtain ⟨hr, hlast⟩ | ⟨nodeType, room, rfl⟩ | rfl :=
        hs.cases_numbered h.agreeing
      · exact ih.recoded hr hlast
      · exact ih.extend room (ih.extended h.agreeing room nodeType)
      · exact numbered_clear _
  | @configure w w' _ h' _ ih ih' =>
      obtain ⟨e, he⟩ | ⟨r, hr, ha⟩ := configure_cases h'.agreeing w
      · rw [he]
        exact ih
      · rw [hr]
        exact ha.numbered h'.agreeing ih'

/-- As long as every export that is imported is tidy, saved code is that of
    its record and waits for none. -/
theorem Reached.settled (h : Reached Tidy w) : w.Settled := by
  induction h with
  | empty => exact ⟨fun _ _ _ h => (nomatch h), fun _ _ _ h => (nomatch h)⟩
  | step h hs ih =>
      obtain ⟨hr, hlast⟩ | ⟨nodeType, room, rfl⟩ | rfl :=
        hs.cases_numbered h.agreeing
      · exact ih.recoded h.numbered hr hlast
      · exact ih.extend h.numbered room
          (h.numbered.extended h.agreeing room nodeType)
      · exact settled_clear _
  | @configure w w' _ h' htidy ih ih' =>
      obtain ⟨e, he⟩ | ⟨r, hr, ha⟩ := configure_cases h'.agreeing w
      · rw [he]
        exact ih
      · rw [hr]
        refine ⟨ha.current ih'.current, fun room => ?_⟩
        exact ((ha.settled_iff h'.agreeing h'.numbered ih' room).mpr
          htidy).code room

/-! ## New nodes -/

/-- Whether a new record has no saved code, neither before nor after it is
    made. -/
def Unwritten (w : Workbench) (nodeType : String) : Prop :=
  w.registry.code.get? (w.addNode nodeType).1.id = none
    ∧ (w.addNode nodeType).2.registry.code.get? (w.addNode nodeType).1.id
      = none

/-- Nothing is saved for a new record exactly if nothing was saved for its
    number. -/
theorem Extended.unwritten_iff {nodeType : String}
    (he : Extended w (w.addNode nodeType).2 (w.addNode nodeType).1) :
    w.Unwritten nodeType ↔
      w.registry.code.get? (toString w.registry.nextId) = none := by
  rw [Unwritten, he.code, and_self, he.id]

/-- Add nodes one after the other. -/
def addNodes (w : Workbench) (nodeTypes : List String) : Workbench :=
  nodeTypes.foldl (fun w nodeType => (w.addNode nodeType).2) w

/-- Nodes may be added as long as there are handles. -/
theorem Reached.addNodes (h : Reached exports w) (nodeTypes : List String)
    (room : w.graph.lastHandle + nodeTypes.length < Graph.handleLimit) :
    Reached exports (w.addNodes nodeTypes)
      ∧ (w.addNodes nodeTypes).graph.lastHandle
        = w.graph.lastHandle + nodeTypes.length := by
  induction nodeTypes generalizing w with
  | nil => exact ⟨h, rfl⟩
  | cons nodeType rest ih =>
      have hroom : w.HasRoom :=
        Nat.lt_of_le_of_lt (Nat.add_le_add_left (Nat.le_add_left 1 _) _) room
      have hlast :=
        (h.numbered.extended h.agreeing hroom nodeType).lastHandle
      have hsum : (w.addNode nodeType).2.graph.lastHandle + rest.length
          = w.graph.lastHandle + (nodeType :: rest).length := by
        rw [hlast, List.length_cons, Nat.add_assoc, Nat.add_comm 1]
      obtain ⟨hrest, hcount⟩ := ih (h.step (.addNode nodeType hroom))
        (hsum ▸ room)
      exact ⟨hrest, hcount.trans hsum⟩

/-- Code that waits at a number is found by the record that gets it. -/
theorem Reached.exists_written {m : Nat} {s : SavedCode}
    (h : Reached exports w)
    (hs : w.registry.code.get? (toString m) = some s)
    (hle : w.registry.nextId ≤ m)
    (room : w.graph.lastHandle + (m - w.registry.nextId) + 1
      < Graph.handleLimit) :
    ∃ nodeTypes : List String, nodeTypes.length = m - w.registry.nextId
      ∧ ¬ (w.addNodes nodeTypes).Unwritten "" := by
  induction hk : m - w.registry.nextId generalizing w with
  | zero =>
      have hm : m = w.registry.nextId := by omega
      have he := h.numbered.extended h.agreeing
        (show w.HasRoom by rwa [hk] at room) ""
      refine ⟨[], rfl, fun hun => ?_⟩
      have hnone := he.unwritten_iff.mp hun
      rw [← hm, hs] at hnone
      cases hnone
  | succ k ih =>
      have hroom : w.HasRoom :=
        Nat.lt_of_le_of_lt (Nat.succ_le_succ (Nat.le_add_right _ _)) room
      have he := h.numbered.extended h.agreeing hroom ""
      have hroom' : (w.addNode "").2.HasRoom := by
        rw [HasRoom, he.lastHandle]
        rw [hk] at room
        exact Nat.lt_of_le_of_lt (Nat.succ_le_succ
          (Nat.add_le_add_left (Nat.le_add_left 1 k) _)) room
      have hnext := he.nextId_eq (h.numbered hroom).2 hroom'
      -- one handle and one number have been given, and as many are left
      have hleft : 1 + (m - (w.registry.nextId + 1))
          = m - w.registry.nextId := by omega
      obtain ⟨nodeTypes, hlength, hun⟩ := ih (h.step (.addNode "" hroom))
        (by rwa [he.code]) (by omega)
        (by rwa [he.lastHandle, hnext, Nat.add_assoc _ 1, hleft]) (by omega)
      exact ⟨"" :: nodeTypes, by simp [hlength], hun⟩

/-- What is reached by imports of some exports is reached if more may be
    imported. -/
theorem Reached.mono {exports' : Workbench → Prop} (h : Reached exports w)
    (hsub : ∀ w, exports w → exports' w) : Reached exports' w := by
  induction h with
  | empty templates => exact .empty templates
  | step _ hs ih => exact ih.step hs
  | configure _ _ hw ih ih' => exact ih.configure ih' (hsub _ hw)

/-- If only tidy exports are imported, nothing is saved for a new record. -/
theorem Reached.unwritten (h : Reached Tidy w) (room : w.HasRoom)
    (nodeType : String) : w.Unwritten nodeType :=
  (h.numbered.extended h.agreeing room nodeType).unwritten_iff.mpr
    (h.settled.get?_next room)

/-- An import leaves no code for new records exactly if the export is tidy. -/
theorem Reached.unwritten_configure_iff (h : Reached Tidy w)
    (h' : Reached Tidy w') (hok : (w.configure w'.snapshot).1 = .ok ())
    (room : 2 * w'.graph.lastHandle + 1 < Graph.handleLimit) :
    (∀ (nodeTypes : List String) (nodeType : String),
        w'.graph.lastHandle + nodeTypes.length + 1 < Graph.handleLimit →
        ((w.configure w'.snapshot).2.addNodes nodeTypes).Unwritten nodeType)
      ↔ w'.Tidy := by
  obtain ⟨e, he⟩ | ⟨r, hr, ha⟩ := configure_cases h'.agreeing w
  · rw [he] at hok
    cases hok
  rw [Nat.two_mul] at room
  have hroom : w'.HasRoom :=
    Nat.lt_of_le_of_lt (Nat.succ_le_succ (Nat.le_add_right _ _)) room
  obtain ⟨-, hle⟩ := h'.numbered hroom
  constructor
  · intro hall
    refine (ha.settled_iff h'.agreeing h'.numbered h'.settled hroom).mp
      ⟨ha.current h'.settled.current, fun _ id s hs => ?_⟩
    change r.code.get? id = some s at hs
    obtain ⟨m, rfl, hpos, hm⟩ := h'.settled.code hroom id s (ha.code ▸ hs)
    refine ⟨m, rfl, hpos, ?_⟩
    -- otherwise the code waits, and enough nodes bring it to light
    by_contra hwait
    have hreached : Reached (fun _ => True) (w.configure w'.snapshot).2 :=
      (h.mono (fun _ _ => trivial)).configure (h'.mono (fun _ _ => trivial))
        trivial
    have hfew : m - r.nextId ≤ w'.graph.lastHandle := by
      have hone := ((ha.numbered h'.agreeing h'.numbered) hroom).1.positive
      change 0 < r.nextId at hone
      omega
    have hroom' : w'.graph.lastHandle + (m - r.nextId) + 1
        < Graph.handleLimit :=
      Nat.lt_of_le_of_lt (Nat.succ_le_succ (Nat.add_le_add_left hfew _)) room
    rw [hr] at hreached hall
    obtain ⟨nodeTypes, hlength, hwritten⟩ :=
      hreached.exists_written hs (Nat.le_of_not_lt hwait) hroom'
    exact hwritten (hall nodeTypes "" (hlength.symm ▸ hroom'))
  · intro htidy nodeTypes nodeType hleft
    have hreached : Reached Tidy (w.configure w'.snapshot).2 :=
      h.configure h' htidy
    rw [hr] at hreached ⊢
    obtain ⟨hadded, hlast⟩ :=
      hreached.addNodes nodeTypes (Nat.lt_of_succ_lt hleft)
    refine hadded.unwritten ?_ nodeType
    rw [HasRoom, hlast]
    exact hleft

/-- In a workbench that is reached by operations and imports of tidy exports
    saved code is that of its record, and a new record has none.  This goes on
    after one more import exactly if its export is tidy. -/
theorem Reached.new_without_code_iff (h : Reached Tidy w) :
    (∀ id s x, w.registry.code.get? id = some s →
        w.registry.record? id = some x → x.code = s.code)
      ∧ (∀ nodeType, w.HasRoom → w.Unwritten nodeType)
      ∧ ∀ w', Reached Tidy w' → (w.configure w'.snapshot).1 = .ok () →
          2 * w'.graph.lastHandle + 1 < Graph.handleLimit →
          ((∀ (nodeTypes : List String) (nodeType : String),
              w'.graph.lastHandle + nodeTypes.length + 1
                < Graph.handleLimit →
              ((w.configure w'.snapshot).2.addNodes nodeTypes).Unwritten
                nodeType)
            ↔ w'.Tidy) := by
  refine ⟨fun id s x hs hx => ?_, fun nodeType room => h.unwritten room _,
    fun w' h' hok room => h.unwritten_configure_iff h' hok room⟩
  rw [Record.code, h.settled.current id s x hs hx]
  rfl

/-- Two nodes, the first of which is removed after code was saved for it.  The
    second keeps its number from being given again. -/
theorem new_without_code_two_nodes :
    let w₀ : Workbench := ⟨{}, { templates := Registry.builtin.templates }⟩
    let w₁ := w₀.addNodes ["code/javascript", "code/javascript"]
    let w₂ := (w₁.setCode "1" "return 2;" "javascript" default).2
    let w := (w₂.removeNode 1).2
    Reached Tidy w
      ∧ w.Unwritten "math/sum"
      ∧ (w.configure w.snapshot).1 = .ok ()
      ∧ ((w.configure w.snapshot).2.addNodes ["math/sum"]).Unwritten
          "math/sum" := by
  intro w₀ w₁ w₂ w
  have h₁ : Reached Tidy w₁ :=
    ((Reached.empty _).addNodes _ (by decide)).1
  have h : Reached Tidy w :=
    (h₁.step (.setCode "1" "return 2;" "javascript" default)).step
      (.removeNode 1)
  have hcode : w.registry.code.entries
      = [("1", ⟨"return 2;", "javascript", default⟩)] := by decide +kernel
  have hlive : w.registry.live.map Record.id = ["2"] := by decide +kernel
  have htidy : w.Tidy := by
    intro id s hs
    have hmem := (Table.mem_entries_iff _ id s).mpr hs
    rw [hcode, List.mem_singleton, Prod.mk.injEq] at hmem
    obtain ⟨x, hx, hid⟩ :=
      List.mem_map.mp (hlive.symm ▸ List.mem_singleton_self "2")
    exact ⟨x, hx, 1, 2, hmem.1, hid, by decide⟩
  have hok : (w.configure w.snapshot).1 = .ok () := by decide +kernel
  obtain ⟨-, hnew, hiff⟩ := h.new_without_code_iff
  exact ⟨h, hnew _ (by decide +kernel), hok,
    (hiff w h hok (by decide +kernel)).mpr htidy _ _ (by decide +kernel)⟩

/-- A node is removed after code was saved for it, and what is left is
    exported and imported again.  The next node gets the number of the first
    one and finds its code. -/
theorem not_always_without_code :
    ¬ ∀ w, Reached (fun _ => True) w →
        (∀ nodeType, w.HasRoom → w.Unwritten nodeType)
          ∧ ∀ id s x, w.registry.code.get? id = some s →
              w.registry.record? id = some x → x.code = s.code := by
  intro hall
  have h₀ : Reached (fun _ => True)
      ⟨{}, { templates := Registry.builtin.templates }⟩ := .empty _
  have h := ((h₀.step (.addNode "code/javascript" (by decide))).step
    (.setCode "1" "return 2;" "javascript" default)).step (.removeNode 1)
  obtain ⟨hnew, -⟩ := hall _ (h.configure h trivial)
  exact absurd (hnew "code/javascript" (by decide +kernel)).1
    (by decide +kernel)

end Workbench
end NodeFlow
