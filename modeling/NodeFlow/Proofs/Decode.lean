import NodeFlow.Json.Decode
import NodeFlow.Proofs.Table

/-! # Decoding what was encoded

    A decoder reads the fields of an object one after the other.  These lemmas
    carry each step out on an object whose members are given, so that reading
    an encoded value comes down to comparing the names of its members.  Others
    say what is known of a value because it has been read. -/

namespace NodeFlow

section Steps

variable {ε α β : Type}

/-- A mapped result succeeds exactly if the result does. -/
theorem map_eq_ok_iff {f : α → β} {x : Except ε α} {b : β} :
    x.map f = .ok b ↔ ∃ a, x = .ok a ∧ f a = b := by
  cases x <;> simp [Except.map]

@[simp] theorem ok_bind (a : α) (f : α → Except ε β) :
    (Except.ok a >>= f) = f a := by
  rfl

@[simp] theorem ok_map (a : α) (f : α → β) :
    (Except.ok a : Except ε α).map f = .ok (f a) := by
  rfl

/-- Two steps succeed exactly if each of them does. -/
theorem bind_eq_ok_iff {x : Except ε α} {f : α → Except ε β} {b : β} :
    (x >>= f) = .ok b ↔ ∃ a, x = .ok a ∧ f a = .ok b := by
  cases x with
  | error e => simp [bind, Except.bind]
  | ok a => simp

/-- Reading every item of a list succeeds where each item does. -/
theorem mapM_eq_ok {f : α → Except ε β} {g : α → β} {l : List α}
    (h : ∀ x ∈ l, f x = .ok (g x)) : l.mapM f = .ok (l.map g) := by
  induction l with
  | nil => rfl
  | cons x rest ih =>
      rw [List.mapM_cons, h x (List.mem_cons_self ..),
        ih (fun y hy => h y (List.mem_cons_of_mem _ hy))]
      rfl

/-- A list that has been read consists of what each item was read as. -/
theorem eq_map_of_mapM_eq_ok {f : α → Except ε β} {g : α → β} {l : List α}
    {ys : List β} (h : ∀ x ∈ l, ∀ y, f x = .ok y → y = g x)
    (hl : l.mapM f = .ok ys) : ys = l.map g := by
  induction l generalizing ys with
  | nil =>
      cases hl
      rfl
  | cons x rest ih =>
      rw [List.mapM_cons, bind_eq_ok_iff] at hl
      obtain ⟨y, hy, hrest⟩ := hl
      obtain ⟨zs, hzs, hpure⟩ := bind_eq_ok_iff.mp hrest
      cases hpure
      rw [List.map_cons, h x (List.mem_cons_self ..) y hy,
        ih (fun z hz => h z (List.mem_cons_of_mem _ hz)) hzs]

/-- What has been read of a list has been read of its items. -/
theorem exists_of_mapM_eq_ok {f : α → Except ε β} {l : List α} {ys : List β}
    (hl : l.mapM f = .ok ys) : ∀ y ∈ ys, ∃ x ∈ l, f x = .ok y := by
  induction l generalizing ys with
  | nil =>
      cases hl
      simp
  | cons x rest ih =>
      rw [List.mapM_cons, bind_eq_ok_iff] at hl
      obtain ⟨y, hy, hrest⟩ := hl
      obtain ⟨zs, hzs, hpure⟩ := bind_eq_ok_iff.mp hrest
      cases hpure
      intro z hz
      rcases List.mem_cons.mp hz with rfl | hz
      · exact ⟨x, List.mem_cons_self .., hy⟩
      · obtain ⟨x', hx', hz'⟩ := ih hzs z hz
        exact ⟨x', List.mem_cons_of_mem _ hx', hz'⟩

end Steps

namespace Json

/-- Of members with one name the last one counts. -/
theorem get?_tableOf (members : List (String × Json)) (k : String) :
    (tableOf members).get? k = Table.lookupEntry k members.reverse :=
  Table.get?_ofList members k

@[simp] theorem toText_str (s : String) : (Json.str s).toText = .ok s := by
  rfl

/-- A natural number below the limit is read as itself. -/
theorem toWhole_ofNat {n : Nat} {limit : Int} (h : (n : Int) < limit)
    (expected : String) :
    (Json.ofNat n).toWhole 0 limit expected = .ok (n : Int) := by
  simp [ofNat, toWhole, h]

/-- What is read from a natural number is that number. -/
theorem eq_of_toWhole_ofNat {n : Nat} {m limit : Int} {expected : String}
    (h : (Json.ofNat n).toWhole 0 limit expected = .ok m) : m = n := by
  simp only [ofNat, toWhole] at h
  split at h
  · cases h
    rfl
  · cases h

/-- A number of 64 bits is read as itself. -/
theorem toWord_ofNat {n : Nat} (h : n < 2 ^ 64) :
    (Json.ofNat n).toWord = .ok n := by
  rw [toWord, toWhole_ofNat (by exact_mod_cast h)]
  rfl

/-- What is read as a word from a number is that number. -/
theorem eq_of_toWord_ofNat {n m : Nat} (h : (Json.ofNat n).toWord = .ok m) :
    m = n := by
  obtain ⟨k, hk, rfl⟩ := map_eq_ok_iff.mp h
  rw [eq_of_toWhole_ofNat hk, Int.toNat_natCast]

/-- A place of 64 bits is read as itself. -/
theorem toIndex_ofNat {n : Nat} (h : n < 2 ^ 64) :
    (Json.ofNat n).toIndex = .ok n := by
  rw [toIndex, toWhole_ofNat (by exact_mod_cast h)]
  rfl

/-- What is read as a place from a number is that number. -/
theorem eq_of_toIndex_ofNat {n m : Nat} (h : (Json.ofNat n).toIndex = .ok m) :
    m = n := by
  obtain ⟨k, hk, rfl⟩ := map_eq_ok_iff.mp h
  rw [eq_of_toWhole_ofNat hk, Int.toNat_natCast]

/-- A signed number of 32 bits is read as itself. -/
theorem toSigned_ofInt {n : Int} (h : -2 ^ 31 ≤ n ∧ n < 2 ^ 31) :
    (Json.ofInt n).toSigned = .ok n := by
  rw [ofInt, toSigned, toWhole, if_pos (by simpa using h)]

/-- An optional value is read where it was written, and `null` is none. -/
theorem toOption_toAny (o : Option Json) :
    toOption toAny (o.getD .null) = .ok (o.filter (· ≠ .null)) := by
  cases o with
  | none => rfl
  | some v => cases v <;> rfl

/-- What is not null is read as an item. -/
theorem toOption_of_ne_null {α : Type} {v : Json} (h : v ≠ .null)
    (item : Json → Decoded α) : toOption item v = (item v).map some := by
  cases v with
  | null => exact absurd rfl h
  | bool _ | number _ | str _ | arr _ | obj _ => rfl

/-- An optional text is written as itself or as null, and read back. -/
@[simp] theorem toOption_str (o : Option String) :
    toOption toText ((o.map Json.str).getD .null) = .ok o := by
  cases o <;> rfl

/-- An optional number of 32 bits is written as itself or as null, and read
    back. -/
theorem toOption_ofInt {o : Option Int}
    (h : ∀ n ∈ o, -2 ^ 31 ≤ n ∧ n < 2 ^ 31) :
    toOption toSigned ((o.map ofInt).getD .null) = .ok o := by
  cases o with
  | none => rfl
  | some n =>
      rw [Option.map_some, Option.getD_some,
        toOption_of_ne_null (by simp [ofInt]), toSigned_ofInt (h n rfl), ok_map]

theorem toList_arr {α : Type} (item : Json → Decoded α) (l : List Json) :
    toList item (.arr l) = l.mapM item := by
  rfl

/-- A list is read item by item, so it is read back if each of its items
    is. -/
theorem toList_arr_map {α : Type} {item : Json → Decoded α}
    {encode : α → Json} {f : α → α} {l : List α}
    (h : ∀ x ∈ l, item (encode x) = .ok (f x)) :
    toList item (.arr (l.map encode)) = .ok (l.map f) := by
  rw [toList_arr, List.mapM_map, mapM_eq_ok (f := item ∘ encode) (g := f) h]

/-! Whatever is read, numbers are within their bounds. -/

/-- A number that has been read is between the bounds. -/
theorem mem_of_toWhole {v : Json} {low limit n : Int} {expected : String}
    (h : v.toWhole low limit expected = .ok n) : low ≤ n ∧ n < limit := by
  unfold toWhole at h
  split at h
  · split at h
    · rename_i hrange
      cases h
      simpa using hrange
    · cases h
  · cases h

/-- A word that has been read has 64 bits. -/
theorem toWord_lt {v : Json} {n : Nat} (h : v.toWord = .ok n) :
    n < 2 ^ 64 := by
  obtain ⟨k, hk, rfl⟩ := map_eq_ok_iff.mp h
  obtain ⟨hpos, hlt⟩ := mem_of_toWhole hk
  omega

/-- A place that has been read has 64 bits. -/
theorem toIndex_lt {v : Json} {n : Nat} (h : v.toIndex = .ok n) :
    n < 2 ^ 64 := by
  obtain ⟨k, hk, rfl⟩ := map_eq_ok_iff.mp h
  obtain ⟨hpos, hlt⟩ := mem_of_toWhole hk
  omega

/-- Each item of a list was read from some value. -/
theorem exists_of_toList {α : Type} {item : Json → Decoded α} {v : Json}
    {l : List α} (h : toList item v = .ok l) :
    ∀ x ∈ l, ∃ u, item u = .ok x := by
  cases v with
  | arr items =>
      intro x hx
      obtain ⟨u, -, hu⟩ := exists_of_mapM_eq_ok h x hx
      exact ⟨u, hu⟩
  | null | bool _ | number _ | str _ | obj _ => cases h

/-- Each value of a table was read from some value. -/
theorem exists_of_toTable {α : Type} {item : Json → Decoded α} {v : Json}
    {t : Table String α} (h : toTable item v = .ok t) :
    ∀ k a, t.get? k = some a → ∃ u, item u = .ok a := by
  cases v with
  | obj members =>
      intro k a ha
      obtain ⟨pairs, hpairs, h⟩ := bind_eq_ok_iff.mp h
      cases h
      -- what is looked up is an entry that was read
      rw [Table.get?_ofList] at ha
      have hmem := List.mem_reverse.mp (Table.mem_of_lookupEntry ha)
      obtain ⟨⟨key, w⟩, -, hread⟩ := exists_of_mapM_eq_ok hpairs _ hmem
      obtain ⟨b, hb, heq⟩ := map_eq_ok_iff.mp hread
      cases heq
      exact ⟨w, hb⟩
  | null | bool _ | number _ | str _ | arr _ => cases h

/-- An item that is there was read from a value that is not null. -/
theorem of_toOption {α : Type} {item : Json → Decoded α} {v : Json} {a : α}
    (h : toOption item v = .ok (some a)) : v ≠ .null ∧ item v = .ok a := by
  have hne : v ≠ .null := by
    rintro rfl
    cases h
  rw [toOption_of_ne_null hne] at h
  obtain ⟨b, hb, heq⟩ := map_eq_ok_iff.mp h
  cases heq
  exact ⟨hne, hb⟩

/-- Whether two objects have the same members under some names, in any order
    and among any others. -/
def Alike (names : List String) (own members : List (String × Json)) : Prop :=
  ∀ k ∈ names, (tableOf members).get? k = (tableOf own).get? k

/-- Members under other names may be added at either end. -/
theorem alike_append {names : List String} {own : List (String × Json)}
    (before after : List (String × Json))
    (hbefore : ∀ e ∈ before, e.1 ∉ names)
    (hafter : ∀ e ∈ after, e.1 ∉ names) :
    Alike names own (before ++ own ++ after) := by
  intro k hk
  have hnone : ∀ {l : List (String × Json)}, (∀ e ∈ l, e.1 ∉ names) →
      Table.lookupEntry k l.reverse = none := by
    intro l hl
    rw [Option.eq_none_iff_forall_ne_some]
    intro v hv
    exact hl (k, v) (List.mem_reverse.mp (Table.mem_of_lookupEntry hv)) hk
  rw [get?_tableOf, get?_tableOf, List.reverse_append, List.reverse_append,
    Table.lookupEntry_append, Table.lookupEntry_append, hnone hbefore,
    hnone hafter, Option.none_or, Option.or_none]

end Json

namespace Fields

@[simp] theorem ofJson_obj (name : String) (count : Nat)
    (members : List (String × Json)) :
    Fields.ofJson name count (.obj members)
      = .ok (.named (Json.tableOf members)) := by
  rfl

variable {α : Type}

/-- A member that is there is read, and one that is missing passed over. -/
theorem find?_named (members : List (String × Json)) (position : Nat)
    (name : String) (item : Json → Decoded α) :
    (Fields.named (Json.tableOf members)).find? position name item
      = match Table.lookupEntry name members.reverse with
        | some v => (item v).map some
        | none => .ok none := by
  cases h : Table.lookupEntry name members.reverse with
  | none => simp only [find?, given?, Json.get?_tableOf, h]
  | some v => simp only [find?, given?, Json.get?_tableOf, h]

@[simp] theorem require_some (fields : Fields) (a : α) :
    fields.require position name (some a) = .ok a := by
  rfl

variable {fields : Fields} {position : Nat} {name : String}

/-- What must be given succeeds exactly if it is found. -/
theorem require_eq_ok_iff {found : Option α} {a : α} :
    fields.require position name found = .ok a ↔ found = some a := by
  unfold require
  split <;> simp

/-- What is found was read. -/
theorem exists_of_find? {item : Json → Decoded α} {a : α}
    (h : fields.find? position name item = .ok (some a)) :
    ∃ v, item v = .ok a := by
  unfold find? at h
  split at h
  · rename_i v _
    obtain ⟨b, hb, heq⟩ := map_eq_ok_iff.mp h
    cases heq
    exact ⟨v, hb⟩
  · cases h

/-- What must be given was read. -/
theorem exists_of_get {item : Json → Decoded α} {a : α}
    (h : fields.get position name item = .ok a) : ∃ v, item v = .ok a := by
  obtain ⟨found, hfound, h⟩ := bind_eq_ok_iff.mp h
  rw [require_eq_ok_iff] at h
  subst h
  exact exists_of_find? hfound

/-- What has a default was read, or it is the default. -/
theorem of_getD {item : Json → Decoded α} {a default : α} {P : α → Prop}
    (hdefault : P default) (hitem : ∀ v b, item v = .ok b → P b)
    (h : fields.getD position name item default = .ok a) : P a := by
  obtain ⟨found, hfound, h⟩ := bind_eq_ok_iff.mp h
  cases h
  cases found with
  | none => exact hdefault
  | some b =>
      obtain ⟨v, hv⟩ := exists_of_find? hfound
      exact hitem v b hv

/-- What is optional was read, unless there is none. -/
theorem exists_of_getOption {item : Json → Decoded α} {trails : Bool} {a : α}
    (h : fields.getOption position name item trails = .ok (some a)) :
    ∃ v, Json.toOption item v = .ok (some a) := by
  obtain ⟨given, hgiven, h⟩ := bind_eq_ok_iff.mp h
  cases given with
  | none =>
      cases fields with
      | named members => cases h
      | listed items expected =>
          simp only at h
          split at h <;> cases h
  | some found =>
      cases h
      exact exists_of_find? hgiven

/-- What is `null` is read as nothing. -/
theorem getOption_ne_null {trails : Bool} {found : Option Json}
    (h : fields.getOption position name Json.toAny trails = .ok found) :
    found ≠ some .null := by
  rintro rfl
  obtain ⟨v, hv⟩ := exists_of_getOption h
  obtain ⟨hne, hread⟩ := Json.of_toOption hv
  cases hread
  exact hne rfl

/-! By name, nothing but the members themselves decides what is read. -/

/-- What must be given and is not found is named in the error. -/
theorem require_named (members : Table String Json) (found : Option α) :
    (Fields.named members).require position name found
      = match found with
        | some a => .ok a
        | none => .error (.missing name) := by
  rfl

/-- An optional member that is null counts as one that is missing. -/
theorem getOption_named (members : Table String Json)
    (item : Json → Decoded α) (trails : Bool) :
    (Fields.named members).getOption position name item trails
      = ((Fields.named members).find? position name (Json.toOption item)).map
          Option.join := by
  unfold getOption
  cases (Fields.named members).find? position name (Json.toOption item) with
  | error e => rfl
  | ok found => cases found <;> rfl

end Fields
end NodeFlow
