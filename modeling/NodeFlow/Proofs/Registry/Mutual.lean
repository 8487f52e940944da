import NodeFlow.Proofs.Registry.Load
import NodeFlow.Workbench

/-! # Nodes and records that lead to each other

    A registry finds the record of a node in one table and the node of a
    record in another.  The record that it finds for a node is always linked
    to that node (`Tied`).  The other way round holds only as long as no node
    is linked to a record while another record has it: that record then keeps
    the node, which does not lead back to it.

    In a run of operations nodes and records lead to each other at any time
    exactly if no operation takes a node away from a record
    (`mutual_iff_undisputed`). -/

namespace NodeFlow.Registry

/-- What a registry is asked to do. -/
inductive Operation where
  /-- Make a record for a node. -/
  | add (v : Handle) (nodeType : String)
  /-- Link a node to a record. -/
  | link (v : Handle) (id : String)
  /-- Remove the record of a node. -/
  | remove (v : Handle)
  /-- Replace all records and saved code. -/
  | load (records : List Record) (code : Table String SavedCode)
  /-- Forget everything but the templates. -/
  | clear
  /-- Store properties of a record. -/
  | updateProperties (id : String) (more : Table String Json)
  /-- Give a record another title and other static ports. -/
  | setStructure (id title : String) (inputs outputs : List Port)
  /-- Add a dynamic input. -/
  | addDynamicInput (id name type : String)
  /-- Remove the dynamic inputs of a name. -/
  | removeDynamicInput (id name : String)
  /-- Save the code of a record. -/
  | saveCode (id code language : String) (now : Timestamp)
  /-- Take in a workflow. -/
  | configure (s : Snapshot)

/-- The registry after an operation. -/
def perform (r : Registry) : Operation → Registry
  | .add v nodeType => (r.add v nodeType).2
  | .link v id => (r.link v id).2
  | .remove v => (r.remove v).2
  | .load records code => r.load records code
  | .clear => r.clear
  | .updateProperties id more => (r.updateProperties id more).2
  | .setStructure id title ins outs => (r.setStructure id title ins outs).2
  | .addDynamicInput id name type => (r.addDynamicInput id name type).2
  | .removeDynamicInput id name => (r.removeDynamicInput id name).2
  | .saveCode id code language now => (r.saveCode id code language now).2
  | .configure s =>
      (Workbench.configure { registry := r } s).2.registry

/-- The registry after one operation after the other. -/
def run (r : Registry) (os : List Operation) : Registry := os.foldl perform r

/-- Whether nodes and records lead to each other. -/
def Mutual (r : Registry) : Prop :=
  ∀ v id, r.handleOf? id = some v ↔ ∃ x, r.recordOf? v = some x ∧ x.id = id

/-- The links to live nodes that an import makes, up to the first that names
    no record. -/
def linksMade (g : Graph) (r : Registry) (l : List (String × Handle)) :
    List (String × Handle) :=
  (l.filter (fun e => g.contains e.2)).takeWhile
    (fun e => r.records.contains e.1)

/-- Whether an operation takes no node away from a record: a node that is
    linked to a record has no other one, and an import links no node twice. -/
def Undisputed (r : Registry) : Operation → Prop
  | .link v id =>
      r.records.contains id = true →
        ∀ j, r.index.get? v = some j → j = id
  | .configure s =>
      ∀ g, Graph.configure s.graph = .ok g →
        ((linksMade g (r.load s.nodes s.code) s.links.entries).map
          (·.2)).Nodup
  | _ => True

/-- Whether no operation of a run takes a node away from a record. -/
def AllUndisputed : Registry → List Operation → Prop
  | _, [] => True
  | r, o :: rest => r.Undisputed o ∧ AllUndisputed (r.perform o) rest

/-! ## What always holds -/

/-- What the tables of a registry have in common whatever has been done. -/
structure Tied (r : Registry) : Prop where
  /-- A record is stored under its identifier. -/
  named : ∀ id x, r.records.get? id = some x → x.id = id
  /-- Only records are found. -/
  recorded : ∀ v id, r.index.get? v = some id → r.records.contains id = true
  /-- The record that is found for a node is linked to it. -/
  linked : ∀ v id, r.index.get? v = some id → r.links.get? id = some v

variable {r r' : Registry} {v : Handle} {id : String} {x : Record}

/-- A node leads to a record exactly if it is in the index with its
    identifier. -/
theorem Tied.exists_recordOf?_iff (h : r.Tied) :
    (∃ x, r.recordOf? v = some x ∧ x.id = id) ↔ r.index.get? v = some id := by
  constructor
  · rintro ⟨x, hx, rfl⟩
    obtain ⟨j, hj, hrec⟩ := recordOf?_eq_some_iff.mp hx
    rw [hj, h.named j x hrec]
  · intro hv
    obtain ⟨x, hx⟩ := Table.contains_iff.mp (h.recorded v id hv)
    exact ⟨x, recordOf?_eq_some_iff.mpr ⟨id, hv, hx⟩, h.named id x hx⟩

/-- It is for the nodes to lead back. -/
theorem Tied.mutual_iff (h : r.Tied) :
    r.Mutual ↔ ∀ v id, r.links.get? id = some v → r.index.get? v = some id := by
  unfold Mutual handleOf?
  simp only [h.exists_recordOf?_iff]
  exact ⟨fun hm v id => (hm v id).mp,
    fun hm v id => ⟨hm v id, h.linked v id⟩⟩

/-- Without links there is nothing to lead to. -/
theorem tied_of_empty (hnamed : ∀ id x, r.records.get? id = some x → x.id = id)
    (hindex : r.index = Table.empty) : r.Tied :=
  ⟨hnamed, by simp [hindex], by simp [hindex]⟩

/-- Without links nothing leads anywhere. -/
theorem mutual_of_empty (h : r.Tied) (hlinks : r.links = Table.empty) :
    r.Mutual :=
  h.mutual_iff.mpr (by simp [hlinks])

/-! ## Operations that link nothing -/

/-- What stays when nothing is linked or unlinked. -/
structure SameLinks (r r' : Registry) : Prop where
  /-- The record of each node. -/
  index : r'.index = r.index
  /-- The node of each record. -/
  links : r'.links = r.links
  /-- What has been a record is one. -/
  contains : ∀ id, r.records.contains id = true →
    r'.records.contains id = true
  /-- Records are stored under their identifiers. -/
  named : (∀ id x, r.records.get? id = some x → x.id = id) →
    ∀ id x, r'.records.get? id = some x → x.id = id

/-- Where nothing happens links stay. -/
theorem SameLinks.refl (r : Registry) : SameLinks r r :=
  ⟨rfl, rfl, fun _ h => h, fun h => h⟩

/-- Tables stay tied if no link changes. -/
theorem SameLinks.tied (hs : SameLinks r r') (h : r.Tied) : r'.Tied where
  named := hs.named h.named
  recorded v id hv := hs.contains id (h.recorded v id (hs.index ▸ hv))
  linked v id hv := by
    rw [hs.links]
    exact h.linked v id (hs.index ▸ hv)

/-- If no link changes, nodes and records lead to each other as before. -/
theorem SameLinks.mutual_iff (hs : SameLinks r r') (h : r.Tied) :
    r'.Mutual ↔ r.Mutual := by
  rw [(hs.tied h).mutual_iff, h.mutual_iff, hs.index, hs.links]

/-- A change of a record that keeps its identifier changes no link. -/
theorem sameLinks_update (f : Record → Record) (hf : ∀ x, (f x).id = x.id) :
    SameLinks r (r.update id f).2 where
  index := update_index _ _ _
  links := update_links _ _ _
  contains j hj := by
    obtain ⟨x, hx⟩ := Table.contains_iff.mp hj
    rw [Table.contains_iff, get?_update]
    split
    · rename_i hjid
      rw [← hjid, hx]
      exact ⟨f x, rfl⟩
    · exact ⟨x, hx⟩
  named hnamed j x hx := by
    rw [get?_update] at hx
    split at hx
    · rename_i hj
      obtain ⟨y, hy, rfl⟩ := Option.map_eq_some_iff.mp hx
      rw [hf, hnamed id y hy, hj]
    · exact hnamed j x hx

/-- A new dynamic input changes no link. -/
theorem sameLinks_addDynamicInput (r : Registry) (id name type : String) :
    SameLinks r (r.addDynamicInput id name type).2 := by
  cases hx : r.records.get? id with
  | none =>
      unfold addDynamicInput record?
      rw [hx]
      exact .refl r
  | some x =>
      rw [addDynamicInput_eq hx]
      split
      · exact .refl r
      · exact sameLinks_update _ (fun _ => rfl)

/-- Taking a dynamic input away changes no link. -/
theorem sameLinks_removeDynamicInput (r : Registry) (id name : String) :
    SameLinks r (r.removeDynamicInput id name).2 := by
  cases hx : r.records.get? id with
  | none =>
      unfold removeDynamicInput record?
      rw [hx]
      exact .refl r
  | some x =>
      rw [removeDynamicInput_snd hx]
      exact sameLinks_update _ (fun _ => rfl)

/-- Saving code changes no link. -/
theorem sameLinks_saveCode (r : Registry) (id code language : String)
    (now : Timestamp) : SameLinks r (r.saveCode id code language now).2 := by
  unfold saveCode
  split
  · exact ⟨rfl, rfl, fun _ h => h, fun h => h⟩
  · exact .refl r

/-- Taking a record in links nothing. -/
theorem sameLinks_loadRecord (r : Registry) (x : Record) :
    SameLinks r (r.loadRecord x) := by
  cases hx : r.records.contains x.id with
  | true =>
      unfold loadRecord
      rw [if_pos hx]
      exact .refl r
  | false =>
      rw [loadRecord_fresh hx]
      refine ⟨rfl, rfl, fun id hid => ?_, fun hnamed id y hy => ?_⟩
      · rw [Table.contains_insert, hid, Bool.or_true]
      · rw [Table.get?_insert] at hy
        split at hy
        · rename_i hid
          cases hy
          exact hid.symm
        · exact hnamed id y hy

/-- Links that stay twice stay. -/
theorem SameLinks.trans {r'' : Registry} (h : SameLinks r r')
    (h' : SameLinks r' r'') : SameLinks r r'' :=
  ⟨h'.index.trans h.index, h'.links.trans h.links,
    fun id hid => h'.contains id (h.contains id hid),
    fun hnamed => h'.named (h.named hnamed)⟩

/-- After a load there are records, and no links. -/
theorem sameLinks_load (r : Registry) (records : List Record)
    (code : Table String SavedCode) :
    SameLinks r.clear (r.load records code) := by
  have hfold : ∀ (l : List Record) (r : Registry),
      SameLinks r (l.foldl loadRecord r) := by
    intro l
    induction l with
    | nil => exact fun r => .refl r
    | cons x rest ih =>
        intro r
        exact (sameLinks_loadRecord r x).trans (ih (r.loadRecord x))
  have h := hfold records r.clear
  exact ⟨h.index, h.links, h.contains, h.named⟩

/-- The tables of an empty registry are tied. -/
theorem tied_clear (r : Registry) : r.clear.Tied :=
  tied_of_empty (by simp [clear]) rfl

/-- In an empty registry nothing leads anywhere. -/
theorem mutual_clear (r : Registry) : r.clear.Mutual :=
  mutual_of_empty r.tied_clear rfl

/-! ## Links -/

/-- A new link keeps the tables tied: the node that the record had leads
    nowhere, and the new one leads to it. -/
theorem Tied.link (h : r.Tied) (v : Handle) (id : String) :
    (r.link v id).2.Tied := by
  cases hid : r.records.contains id with
  | false =>
      rw [link_of_not_contains hid]
      exact h
  | true =>
      refine ⟨?_, ?_, ?_⟩
      · rw [link_records]
        exact h.named
      · intro u j hu
        rw [link_records]
        rw [get?_link_index_of_contains hid] at hu
        split at hu
        · cases hu
          exact hid
        · split at hu
          · cases hu
          · exact h.recorded u j hu
      · intro u j hu
        rw [get?_link_links hid]
        rw [get?_link_index_of_contains hid] at hu
        split at hu
        · rename_i huv
          cases hu
          rw [if_pos rfl, huv]
        · split at hu
          · cases hu
          · -- a record other than `id`, since `u` has not been that of `id`
            rename_i hold
            have hj := h.linked u j hu
            have hne : j ≠ id := by
              rintro rfl
              exact hold hj
            rw [if_neg hne, hj]

/-- A link keeps nodes and records leading to each other if and only if the
    node has no other record. -/
theorem Tied.mutual_link_iff (h : r.Tied) (hm : r.Mutual)
    (hid : r.records.contains id = true) :
    (r.link v id).2.Mutual ↔ ∀ j, r.index.get? v = some j → j = id := by
  rw [(h.link v id).mutual_iff]
  rw [h.mutual_iff] at hm
  simp only [get?_link_links hid, get?_link_index_of_contains hid]
  constructor
  · -- another record of the node would still be linked to it
    intro hback j hj
    by_cases hne : j = id
    · exact hne
    · have hv := hback v j (by rw [if_neg hne]; exact h.linked v j hj)
      rw [if_pos rfl] at hv
      exact (Option.some.inj hv).symm
  · intro honly u j hu
    by_cases hj : j = id
    · rw [if_pos hj] at hu
      rw [if_pos (Option.some.inj hu).symm, hj]
    · rw [if_neg hj] at hu
      have hback := hm u j hu
      have hne : u ≠ v := fun heq => hj (honly j (heq ▸ hback))
      have hother : r.links.get? id ≠ some u := fun heq =>
        hj (Option.some.inj (hback.symm.trans (hm u id heq)))
      rw [if_neg hne, if_neg hother, hback]

/-! ## Adding and removing records -/

/-- The registry with one more record that is not linked. -/
theorem sameLinks_insert (r : Registry) (nodeType : String) :
    SameLinks r (r.withNew nodeType) := by
  refine ⟨rfl, rfl, fun j hj => ?_, fun hnamed j y hy => ?_⟩
  · show (r.records.insert _ _).contains j = true
    rw [Table.contains_insert, hj, Bool.or_true]
  · change (r.records.insert _ _).get? j = some y at hy
    rw [Table.get?_insert] at hy
    split at hy
    · rename_i hj
      cases hy
      rw [newRecord_id, hj]
    · exact hnamed j y hy

/-- A node without a record gets one; any other node keeps the one that it
    has. -/
theorem Tied.add_cases (h : r.Tied) (v : Handle) (nodeType : String) :
    (r.add v nodeType).2 = r
      ∨ r.index.get? v = none
        ∧ (r.add v nodeType).2
          = ((r.withNew nodeType).link v r.nextIdentifier).2 := by
  unfold add
  cases hx : r.recordOf? v with
  | some x => exact Or.inl rfl
  | none =>
      refine Or.inr ⟨?_, rfl⟩
      cases hv : r.index.get? v with
      | none => rfl
      | some id =>
          obtain ⟨x, hx', -⟩ := h.exists_recordOf?_iff.mpr hv
          rw [hx] at hx'
          cases hx'

/-- A new record is linked to the node it is made for. -/
theorem Tied.add (h : r.Tied) (v : Handle) (nodeType : String) :
    (r.add v nodeType).2.Tied := by
  rcases h.add_cases v nodeType with heq | ⟨-, heq⟩
  · rw [heq]
    exact h
  · rw [heq]
    exact ((sameLinks_insert r nodeType).tied h).link v _

/-- A new record takes no node away from another one: it is made only for a
    node that leads to none. -/
theorem Tied.mutual_add (h : r.Tied) (hm : r.Mutual) (v : Handle)
    (nodeType : String) : (r.add v nodeType).2.Mutual := by
  rcases h.add_cases v nodeType with heq | ⟨hfree, heq⟩
  · rw [heq]
    exact hm
  · have hs := sameLinks_insert r nodeType
    rw [heq, (hs.tied h).mutual_link_iff ((hs.mutual_iff h).mpr hm)
      (contains_withNew r nodeType)]
    intro j hj
    rw [hs.index, hfree] at hj
    cases hj

/-- A record that is removed is unlinked on both sides. -/
theorem Tied.remove (h : r.Tied) (v : Handle) : (r.remove v).2.Tied := by
  cases hv : r.index.get? v with
  | none =>
      rw [remove_of_none hv]
      exact h
  | some id =>
      rw [remove_of_some hv]
      constructor
      · intro j y hy
        rw [Table.get?_modify] at hy
        split at hy
        · rename_i hj
          obtain ⟨x, hx, rfl⟩ := Option.map_eq_some_iff.mp hy
          exact (h.named id x hx).trans hj.symm
        · exact h.named j y hy
      · intro u j hu
        rw [Table.get?_erase] at hu
        split at hu
        · cases hu
        · rw [Table.contains, Table.get?_modify]
          obtain ⟨x, hx⟩ := Table.contains_iff.mp (h.recorded u j hu)
          split
          · rename_i hj
            rw [← hj, hx]
            rfl
          · rw [hx]
            rfl
      · intro u j hu
        rw [Table.get?_erase] at hu
        split at hu
        · cases hu
        · rename_i hne
          have hj := h.linked u j hu
          -- the record that is removed is linked to `v` and not to `u`
          have hjid : j ≠ id := by
            rintro rfl
            rw [h.linked v j hv] at hj
            exact hne (Option.some.inj hj).symm
          rw [Table.get?_erase, if_neg hjid, hj]

/-- What leads to each other and is not removed still does. -/
theorem Tied.mutual_remove (h : r.Tied) (hm : r.Mutual) (v : Handle) :
    (r.remove v).2.Mutual := by
  rw [(h.remove v).mutual_iff]
  rw [h.mutual_iff] at hm
  cases hv : r.index.get? v with
  | none =>
      rw [remove_of_none hv]
      exact hm
  | some id =>
      rw [remove_of_some hv]
      intro u j hu
      rw [Table.get?_erase] at hu
      split at hu
      · cases hu
      · rename_i hj
        have hback := hm u j hu
        rw [Table.get?_erase, if_neg, hback]
        rintro rfl
        rw [hv] at hback
        exact hj (Option.some.inj hback).symm

/-! ## Imports -/

/-- An import makes one link after the other. -/
theorem restoreLinks_eq (g : Graph) (r : Registry)
    (l : List (String × Handle)) :
    (Workbench.restoreLinks g r l).2
      = (linksMade g r l).foldl (fun r e => (r.link e.2 e.1).2) r := by
  induction l generalizing r with
  | nil => rfl
  | cons e rest ih =>
      obtain ⟨id, v⟩ := e
      rw [Workbench.restoreLinks]
      cases hv : g.contains v with
      -- a node that is not live is passed over
      | false =>
          have hskip : linksMade g r ((id, v) :: rest)
              = linksMade g r rest := by
            simp [linksMade, hv]
          rw [if_neg Bool.false_ne_true, ih, hskip]
      | true =>
          rw [if_pos rfl]
          cases hid : r.records.contains id with
          | false =>
              -- an identifier without a record ends the import
              have hstop : linksMade g r ((id, v) :: rest) = [] := by
                simp [linksMade, hv, hid]
              rw [link_of_not_contains hid, hstop]
              rfl
          | true =>
              have hlink : r.link v id = (true, (r.link v id).2) :=
                Prod.ext ((link_fst r v id).trans hid) rfl
              -- any other link is made, and no record changes with it
              have hnext : linksMade g r ((id, v) :: rest)
                  = (id, v) :: linksMade g (r.link v id).2 rest := by
                simp [linksMade, hv, hid]
              rw [hlink, hnext]
              exact ih (r.link v id).2

/-- An import links records only. -/
theorem mem_linksMade {g : Graph} {l : List (String × Handle)}
    {e : String × Handle} (he : e ∈ linksMade g r l) :
    r.records.contains e.1 = true :=
  List.all_eq_true.mp List.all_takeWhile e he

/-- An import makes some of the links that it is given, in their order. -/
theorem linksMade_sublist (g : Graph) (r : Registry)
    (l : List (String × Handle)) : (linksMade g r l).Sublist l :=
  (List.takeWhile_sublist _).trans List.filter_sublist

/-- Any links, one after the other, keep the tables tied. -/
theorem tied_foldl_link (l : List (String × Handle)) (h : r.Tied) :
    (l.foldl (fun r e => (r.link e.2 e.1).2) r).Tied := by
  induction l generalizing r with
  | nil => exact h
  | cons e rest ih => exact ih (h.link e.2 e.1)

/-- Links of distinct records are all there in the end. -/
theorem get?_foldl_link {l : List (String × Handle)}
    (hrec : ∀ e ∈ l, r.records.contains e.1 = true)
    (hids : (l.map (·.1)).Nodup) (id : String) (v : Handle) :
    (l.foldl (fun r e => (r.link e.2 e.1).2) r).links.get? id = some v ↔
      (id, v) ∈ l ∨ r.links.get? id = some v ∧ id ∉ l.map (·.1) := by
  induction l generalizing r with
  | nil => simp
  | cons e rest ih =>
      rw [List.map_cons, List.nodup_cons] at hids
      rw [List.foldl_cons, ih (fun k hk => by
        rw [link_records]
        exact hrec k (List.mem_cons_of_mem _ hk)) hids.2,
        get?_link_links (hrec e (List.mem_cons_self ..)), List.mem_cons,
        List.map_cons, List.mem_cons]
      by_cases hid : id = e.1
      · subst hid
        have hnot : (e.1, v) ∉ rest := fun hmem =>
          hids.1 (List.mem_map.mpr ⟨_, hmem, rfl⟩)
        simp [hnot, hids.1, Prod.ext_iff, eq_comm]
      · have hne : (id, v) ≠ e := fun heq => hid (congrArg Prod.fst heq)
        simp [hid, hne]

/-- Links of nodes that have no record, none of them twice, leave nodes and
    records leading to each other. -/
theorem mutual_foldl_link {l : List (String × Handle)} (h : r.Tied)
    (hm : r.Mutual) (hrec : ∀ e ∈ l, r.records.contains e.1 = true)
    (hfree : ∀ e ∈ l, r.index.get? e.2 = none)
    (hhandles : (l.map (·.2)).Nodup) :
    (l.foldl (fun r e => (r.link e.2 e.1).2) r).Mutual := by
  induction l generalizing r with
  | nil => exact hm
  | cons e rest ih =>
      rw [List.map_cons, List.nodup_cons] at hhandles
      have hid := hrec e (List.mem_cons_self ..)
      refine ih (h.link e.2 e.1) ?_ ?_ ?_ hhandles.2
      · rw [h.mutual_link_iff hm hid, hfree e (List.mem_cons_self ..)]
        exact fun j hj => nomatch hj
      · intro k hk
        rw [link_records]
        exact hrec k (List.mem_cons_of_mem _ hk)
      · intro k hk
        have hne : k.2 ≠ e.2 := fun heq =>
          hhandles.1 (List.mem_map.mpr ⟨k, hk, heq⟩)
        rw [get?_link_index_of_contains hid, if_neg hne,
          hfree k (List.mem_cons_of_mem _ hk)]
        split <;> rfl

/-- An import is refused, or records are loaded and linked. -/
theorem configure_cases (r : Registry) (s : Snapshot) :
    (∃ e, Graph.configure s.graph = .error e ∧ r.perform (.configure s) = r)
      ∨ ∃ g, Graph.configure s.graph = .ok g
          ∧ r.perform (.configure s)
            = (linksMade g (r.load s.nodes s.code) s.links.entries).foldl
                (fun r e => (r.link e.2 e.1).2) (r.load s.nodes s.code) := by
  simp only [perform, Workbench.configure]
  cases Graph.configure s.graph with
  | error e => exact Or.inl ⟨e, rfl, rfl⟩
  | ok g => exact Or.inr ⟨g, rfl, restoreLinks_eq g _ _⟩

/-- After an import nodes and records lead to each other exactly if no node is
    linked twice. -/
theorem Tied.mutual_configure_iff (hm : r.Mutual) (s : Snapshot) :
    (r.perform (.configure s)).Mutual ↔ r.Undisputed (.configure s) := by
  simp only [Undisputed]
  rcases r.configure_cases s with ⟨e, hg, heq⟩ | ⟨g, hg, heq⟩
  · rw [heq, hg]
    exact iff_of_true hm (fun _ h => nomatch h)
  · have hload := r.sameLinks_load s.nodes s.code
    have htied := hload.tied r.tied_clear
    have hids : ((linksMade g (r.load s.nodes s.code) s.links.entries).map
        (·.1)).Nodup :=
      s.links.keys_nodup.sublist ((linksMade_sublist _ _ _).map _)
    rw [heq, hg]
    simp only [Except.ok.injEq, forall_eq']
    constructor
    · -- two records of one node would both be what it leads to
      intro hfinal
      rw [(tied_foldl_link _ htied).mutual_iff] at hfinal
      have hback : ∀ e ∈ linksMade g (r.load s.nodes s.code) s.links.entries,
          _ := fun e he => hfinal e.2 e.1
            ((get?_foldl_link (fun _ => mem_linksMade) hids e.1 e.2).mpr
              (Or.inl he))
      rw [List.Nodup, List.pairwise_map]
      refine (List.pairwise_map.mp hids).imp_of_mem
        (fun {a b} ha hb hab hsame => hab ?_)
      have hindex := hback a ha
      rw [hsame, hback b hb] at hindex
      exact (Option.some.inj hindex).symm
    · refine mutual_foldl_link htied (mutual_of_empty htied hload.links)
        (fun _ => mem_linksMade) (fun e _ => ?_)
      rw [hload.index]
      rfl

/-! ## Runs -/

/-- Every operation keeps the tables tied. -/
theorem Tied.perform (h : r.Tied) (o : Operation) : (r.perform o).Tied := by
  -- only links, new records and imports touch the index; the first two have
  -- lemmas of their own
  cases o with
  | add v nodeType => exact h.add v nodeType
  | link v id => exact h.link v id
  | remove v => exact h.remove v
  | load records code => exact (r.sameLinks_load records code).tied r.tied_clear
  | clear => exact r.tied_clear
  | updateProperties id more =>
      exact (sameLinks_update (·.withProperties more) (fun _ => rfl)).tied h
  | setStructure id title ins outs =>
      exact (sameLinks_update (restructured title ins outs)
        (fun _ => rfl)).tied h
  | addDynamicInput id name type =>
      exact (r.sameLinks_addDynamicInput id name type).tied h
  | removeDynamicInput id name =>
      exact (r.sameLinks_removeDynamicInput id name).tied h
  | saveCode id code language now =>
      exact (r.sameLinks_saveCode id code language now).tied h
  | configure s =>
      rcases r.configure_cases s with ⟨e, -, heq⟩ | ⟨g, -, heq⟩
      · rw [heq]
        exact h
      · rw [heq]
        exact tied_foldl_link _
          ((r.sameLinks_load s.nodes s.code).tied r.tied_clear)

/-- An operation keeps nodes and records leading to each other if and only if
    it takes no node away from a record. -/
theorem Tied.mutual_perform_iff (h : r.Tied) (hm : r.Mutual) (o : Operation) :
    (r.perform o).Mutual ↔ r.Undisputed o := by
  cases o with
  | add v nodeType => exact iff_of_true (h.mutual_add hm v nodeType) trivial
  -- a link to what is no record changes nothing
  | link v id =>
      show (r.link v id).2.Mutual ↔ (r.records.contains id = true → _)
      cases hid : r.records.contains id with
      | false =>
          rw [link_of_not_contains hid]
          exact iff_of_true hm (fun h => nomatch h)
      | true =>
          rw [h.mutual_link_iff hm hid]
          exact ⟨fun honly _ => honly, fun honly => honly rfl⟩
  | remove v => exact iff_of_true (h.mutual_remove hm v) trivial
  | load records code =>
      have hs := r.sameLinks_load records code
      exact iff_of_true ((hs.mutual_iff r.tied_clear).mpr r.mutual_clear)
        trivial
  | clear => exact iff_of_true r.mutual_clear trivial
  | updateProperties id more =>
      have hs : SameLinks r (r.updateProperties id more).2 :=
        sameLinks_update (·.withProperties more) (fun _ => rfl)
      exact iff_of_true ((hs.mutual_iff h).mpr hm) trivial
  | setStructure id title ins outs =>
      have hs : SameLinks r (r.setStructure id title ins outs).2 :=
        sameLinks_update (restructured title ins outs) (fun _ => rfl)
      exact iff_of_true ((hs.mutual_iff h).mpr hm) trivial
  | addDynamicInput id name type =>
      exact iff_of_true
        (((r.sameLinks_addDynamicInput id name type).mutual_iff h).mpr hm)
        trivial
  | removeDynamicInput id name =>
      exact iff_of_true
        (((r.sameLinks_removeDynamicInput id name).mutual_iff h).mpr hm)
        trivial
  | saveCode id code language now =>
      exact iff_of_true
        (((r.sameLinks_saveCode id code language now).mutual_iff h).mpr hm)
        trivial
  | configure s => exact Tied.mutual_configure_iff hm s

/-- The tables are tied after every run. -/
theorem Tied.run (h : r.Tied) (os : List Operation) : (r.run os).Tied := by
  induction os generalizing r with
  | nil => exact h
  | cons o rest ih => exact ih (h.perform o)

/-- Nodes and records lead to each other after every step exactly if no step
    takes a node away from a record. -/
theorem Tied.mutual_run_iff (h : r.Tied) (hm : r.Mutual)
    (os : List Operation) :
    (∀ n, (r.run (os.take n)).Mutual) ↔ AllUndisputed r os := by
  induction os generalizing r with
  | nil => exact iff_of_true (fun n => by rw [List.take_nil]; exact hm) trivial
  | cons o rest ih =>
      rw [AllUndisputed, ← h.mutual_perform_iff hm o]
      constructor
      · -- the state after one operation, and those that follow it
        intro hall
        have hone : (r.perform o).Mutual := hall 1
        exact ⟨hone, (ih (h.perform o) hone).mp (fun n => hall (n + 1))⟩
      · rintro ⟨hone, hrest⟩ n
        cases n with
        | zero => exact hm
        | succ n => exact (ih (h.perform o) hone).mpr hrest n

/-- After any operations the record of a node is linked to it.  Nodes and
    records lead to each other all the time exactly in those runs in which no
    node is taken away from a record. -/
theorem mutual_iff_undisputed (templates : Table String Template)
    (os : List Operation) :
    (∀ v x, (run { templates := templates } os).recordOf? v = some x →
        (run { templates := templates } os).handleOf? x.id = some v)
      ∧ ((∀ n, (run { templates := templates } (os.take n)).Mutual)
          ↔ AllUndisputed { templates := templates } os) := by
  have hclear := tied_clear { templates := templates }
  refine ⟨fun v x hx => ?_,
    hclear.mutual_run_iff (mutual_clear { templates := templates }) os⟩
  have htied := hclear.run os
  exact htied.linked v x.id (htied.exists_recordOf?_iff.mp ⟨x, hx, rfl⟩)

/-- The node of one record is linked to another one: the first record keeps
    it, but the node leads to the second. -/
theorem not_always_mutual : ¬ ∀ os : List Operation, (run {} os).Mutual := by
  intro hall
  have hkept := hall [.add 1 "a", .add 2 "b", .link 1 "2"]
  obtain ⟨x, hx, hid⟩ := (hkept 1 "1").mp (by decide)
  have hother : (run {} [.add 1 "a", .add 2 "b", .link 1 "2"]).recordOf? 1
      = some { id := "2", nodeType := "b", title := "b" } := by decide
  rw [hother] at hx
  cases hx
  exact absurd hid (by decide)

end NodeFlow.Registry
