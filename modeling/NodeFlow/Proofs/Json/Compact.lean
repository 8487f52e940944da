import NodeFlow.Proofs.Json.Reading
import NodeFlow.Proofs.Table

/-! # Printed values

    The compact form of a value is one of the texts of the tree of the value
    (`written_compact`), so this tree is read from it (`ofText?_compact`).  If
    the program holds the value and it is not nested too deep, its tree is
    settled into it again (`settle_tree`).  Of numbers that are not whole it
    is assumed that they are read where they are printed.

    The characters of the indented form are given by the same recursion as the
    form itself (`toList_indentedAt`), so that what is read from it can be
    computed without going through the octets of texts. -/

namespace NodeFlow.Json

/-! ## The parts of a value -/

/-- Whether a value stands somewhere in another, or is that one. -/
inductive Part (p : Json) : Json → Prop where
  /-- The value itself. -/
  | self : Part p p
  /-- In an item of a list. -/
  | item {v : Json} {items : List Json} :
      v ∈ items → Part p v → Part p (.arr items)
  /-- In a member of an object. -/
  | member {k : String} {v : Json} {members : List (String × Json)} :
      (k, v) ∈ members → Part p v → Part p (.obj members)

/-- Whether every number in a value is read where it is printed. -/
def NumbersKept (v : Json) : Prop :=
  ∀ n, Part (.number n) v → n.Kept

mutual

/-- How many containers there are around and including the innermost value. -/
def depth : Json → Nat
  | .null | .bool _ | .number _ | .str _ => 0
  | .arr items => itemDepth items + 1
  | .obj members => memberDepth members + 1

/-- The depth of the deepest item. -/
def itemDepth : List Json → Nat
  | [] => 0
  | v :: rest => max (depth v) (itemDepth rest)

/-- The depth of the deepest member. -/
def memberDepth : List (String × Json) → Nat
  | [] => 0
  | (_, v) :: rest => max (depth v) (memberDepth rest)

end

/-- Items of a list have the numbers that the list has. -/
theorem NumbersKept.of_mem {items : List Json}
    (h : (Json.arr items).NumbersKept) : ∀ v ∈ items, v.NumbersKept :=
  fun _ hv n hn => h n (.item hv hn)

/-- Members of an object have the numbers that the object has. -/
theorem NumbersKept.of_member {members : List (String × Json)}
    (h : (Json.obj members).NumbersKept) : ∀ m ∈ members, m.2.NumbersKept :=
  fun _ hm n hn => h n (.member hm hn)

/-- Whether a value is one that the program holds, with numbers that are read
    where they are printed: the keys of objects ascend. -/
structure Held (v : Json) : Prop where
  /-- Keys ascend, and so none is there twice. -/
  keys : ∀ members, Part (.obj members) v →
    members.Pairwise (fun a b => a.1 < b.1)
  /-- Whole numbers have 64 bits, with a sign or without. -/
  wholes : ∀ n, Part (.number (.whole n)) v → -2 ^ 63 ≤ n ∧ n < 2 ^ 64
  /-- Other numbers are read where they are printed. -/
  reals : ∀ x, Part (.number (.real x)) v → (Number.real x).Kept

/-- Whole numbers of 64 bits need no assumption: they are read where they are
    printed. -/
theorem Held.numbersKept {v : Json} (h : v.Held) : v.NumbersKept := by
  intro n hn
  cases n with
  | whole n => exact Number.kept_whole (h.wholes n hn)
  | real x => exact h.reals x hn

/-- A list is held exactly if its items are. -/
theorem held_arr_iff {items : List Json} :
    (Json.arr items).Held ↔ ∀ v ∈ items, v.Held := by
  constructor
  · exact fun h v hv =>
      ⟨fun ms hms => h.keys ms (.item hv hms),
        fun n hn => h.wholes n (.item hv hn),
        fun x hx => h.reals x (.item hv hx)⟩
  · intro h
    refine ⟨fun ms hms => ?_, fun n hn => ?_, fun x hx => ?_⟩
    · cases hms with
      | item hv hms => exact (h _ hv).keys ms hms
    · cases hn with
      | item hv hn => exact (h _ hv).wholes n hn
    · cases hx with
      | item hv hx => exact (h _ hv).reals x hx

/-- What is held in an object is held on its own. -/
theorem Held.of_member {members : List (String × Json)}
    (h : (Json.obj members).Held) : ∀ m ∈ members, m.2.Held := fun _ hm =>
  ⟨fun ms hms => h.keys ms (.member hm hms),
    fun n hn => h.wholes n (.member hm hn),
    fun x hx => h.reals x (.member hm hx)⟩

/-- An object has no numbers but those of its members. -/
theorem numbersKept_obj {members : List (String × Json)}
    (h : ∀ m ∈ members, m.2.Held) : (Json.obj members).NumbersKept := by
  intro n hn
  cases hn with
  | member hm hn => exact (h _ hm).numbersKept n hn

theorem held_null : Json.null.Held :=
  ⟨fun _ => nofun, fun _ => nofun, fun _ => nofun⟩

theorem held_bool (b : Bool) : (Json.bool b).Held :=
  ⟨fun _ => nofun, fun _ => nofun, fun _ => nofun⟩

theorem held_str (s : String) : (Json.str s).Held :=
  ⟨fun _ => nofun, fun _ => nofun, fun _ => nofun⟩

/-- A number that is not whole is held if it is read where it is printed. -/
theorem held_real {x : Binary64} (h : (Number.real x).Kept) :
    (Json.number (.real x)).Held := by
  refine ⟨fun _ => nofun, fun _ => nofun, fun y hy => ?_⟩
  cases hy
  exact h

/-- A whole number is held if it has 64 bits. -/
theorem held_ofInt {n : Int} (h : -2 ^ 63 ≤ n ∧ n < 2 ^ 64) :
    (Json.ofInt n).Held := by
  refine ⟨fun _ => nofun, fun m hm => ?_, fun _ => nofun⟩
  cases hm
  exact h

/-! ## The tree of a value -/

/-- The numeral that a number is printed as. -/
def numeralOf (n : Number) : Numeral :=
  (Numeral.ofChars? n.text.toList).getD ⟨false, [], none, none⟩

mutual

/-- The tree of a value. -/
def tree : Json → Tree
  | .null => .literal none
  | .bool b => .literal (some b)
  | .number n => .numeral (numeralOf n)
  | .str s => .text (some s)
  | .arr items => .list (itemTrees items)
  | .obj members => .object (memberTrees members)

/-- The trees of items. -/
def itemTrees : List Json → List Tree
  | [] => []
  | v :: rest => tree v :: itemTrees rest

/-- The trees of members under their names. -/
def memberTrees : List (String × Json) → List (Option String × Tree)
  | [] => []
  | (k, v) :: rest => (some k, tree v) :: memberTrees rest

end

/-- The numeral that a number is printed as has that number as its value. -/
theorem ofChars?_of_kept {n : Number} (h : n.Kept) :
    Numeral.ofChars? n.text.toList = some (numeralOf n)
      ∧ (numeralOf n).value? = some n := by
  obtain ⟨numeral, hchars, hvalue⟩ := Option.bind_eq_some_iff.mp h
  rw [numeralOf, hchars]
  exact ⟨rfl, hvalue⟩

/-! ## Quoted text -/

/-- How a character is written between quotes: with a letter, with its number,
    or as it is. -/
theorem escapeChar_cases (c : Char) :
    (∃ l, escapeChar c = ['\\', l] ∧ l ≠ 'u' ∧ l ≠ '\n'
        ∧ escapeValue l = some c)
      ∨ (escapeChar c = unitEscape c.toNat ∧ c.toNat < 0x20)
      ∨ (escapeChar c = [c] ∧ c ≠ '"' ∧ c ≠ '\\' ∧ ¬ c.toNat < 0x20) := by
  -- letters stand for the characters with their numbers
  have hof : ∀ {n : Nat}, c.toNat = n → Char.ofNat n = c := fun h => by
    rw [← h, Char.ofNat_toNat]
  unfold escapeChar
  -- the cases are those of the definition, in its order
  split
  · rename_i h
    exact .inl ⟨'"', rfl, by decide, by decide, by rw [h]; rfl⟩
  split
  · rename_i h
    exact .inl ⟨'\\', rfl, by decide, by decide, by rw [h]; rfl⟩
  split
  · rename_i h
    exact .inl ⟨'n', rfl, by decide, by decide, by rw [h]; rfl⟩
  split
  · rename_i h
    exact .inl ⟨'r', rfl, by decide, by decide, by rw [h]; rfl⟩
  split
  · rename_i h
    exact .inl ⟨'t', rfl, by decide, by decide, by rw [h]; rfl⟩
  split
  · rename_i h
    exact .inl ⟨'b', rfl, by decide, by decide, by rw [← hof h]; rfl⟩
  split
  · rename_i h
    exact .inl ⟨'f', rfl, by decide, by decide, by rw [← hof h]; rfl⟩
  split
  · rename_i h
    exact .inr (.inl ⟨rfl, h⟩)
  · rename_i hquote hslash _ _ _ _ _ h
    exact .inr (.inr ⟨rfl, hquote, hslash, h⟩)

/-- How a character is read between quotes: the control characters that have no
    letter are code units. -/
def pieceOf (c : Char) : Piece :=
  if (escapeChar c).length = 6 then .unit c.toNat else .char c

/-- An escape with a number is longer than any other. -/
theorem length_unitEscape (n : Nat) : (unitEscape n).length = 6 := rfl

/-- The characters of a text between quotes. -/
def quotedChars (s : String) : List Char :=
  '"' :: (s.toList.flatMap escapeChar ++ ['"'])

/-- The characters of a quoted text. -/
@[simp] theorem toList_quoted (s : String) :
    (quoted s).toList = quotedChars s := by
  rw [quoted, String.toList_ofList, quotedChars]

/-- What is written for a character is read as the piece that stands for
    it. -/
theorem written_escapeChar (c : Char) : (pieceOf c).Written (escapeChar c) := by
  rcases escapeChar_cases c with ⟨l, h, -, -, hvalue⟩ | ⟨h, hlow⟩
    | ⟨h, hquote, hslash, hlow⟩
  · rw [pieceOf, h, if_neg (by simp)]
    exact .letter hvalue
  · rw [pieceOf, h, if_pos (length_unitEscape _)]
    exact .unit (by omega)
  · rw [pieceOf, h, if_neg (by simp)]
    exact .plain hquote hslash hlow

/-- What is written between quotes spells the text. -/
theorem spell_pieceOf (cs : List Char) :
    spell (cs.map pieceOf) = some cs := by
  -- a unit below the surrogates is a character of its own
  have hunit : ∀ {n : Nat}, n < 0xD800 → ∀ ps,
      spell (.unit n :: ps) = (spell ps).map (Char.ofNat n :: ·) := by
    intro n hn ps
    have hlow : ¬ 0xD800 ≤ n := by omega
    cases ps with
    | nil => simp [spell, hlow]
    | cons p ps =>
        cases p with
        | char c => simp [spell, hlow]
        | unit m =>
            have hlow' : ¬ 0xDC00 ≤ n := by omega
            simp [spell, hlow, hlow']
  induction cs with
  | nil => rfl
  | cons c rest ih =>
      have hchar : spell (.char c :: rest.map pieceOf) = some (c :: rest) := by
        rw [spell, ih, Option.map_some]
      rw [List.map_cons, pieceOf]
      -- what is escaped with its number is a control character, and read as a
      -- unit
      rcases escapeChar_cases c with ⟨l, h, -⟩ | ⟨h, hlow⟩ | ⟨h, -⟩
      · rw [h, if_neg (by simp), hchar]
      · rw [h, if_pos (length_unitEscape _), hunit (by omega), ih,
          Char.ofNat_toNat, Option.map_some]
      · rw [h, if_neg (by simp), hchar]

/-- What is written for the characters of a text is read piece by piece. -/
theorem piecesWritten_escaped (cs : List Char) :
    PiecesWritten (cs.map pieceOf) (cs.flatMap escapeChar) := by
  induction cs with
  | nil => exact .nil
  | cons c cs ih => exact .cons (written_escapeChar c) ih

/-- A quoted text is a way to write that text. -/
theorem quoteWritten_quoted (s : String) :
    QuoteWritten (some s) (quoted s).toList := by
  have h := QuoteWritten.quote (piecesWritten_escaped s.toList)
  rw [spell_pieceOf, Option.map_some, String.ofList_toList] at h
  rw [toList_quoted]
  exact h

/-! ## The compact form as a text of the tree -/

mutual

/-- The compact form of a value is one way to write its tree. -/
theorem written_compact (v : Json) (hv : v.NumbersKept) :
    (tree v).Written (compact v).toList := by
  match v with
  | .null => exact .literal none
  | .bool true => exact .literal (some true)
  | .bool false => exact .literal (some false)
  | .number n => exact .numeral (ofChars?_of_kept (hv n .self)).1
  | .str s => exact .text (quoteWritten_quoted s)
  | .arr items =>
      have h := Tree.Written.list (written_items items hv.of_mem)
      rw [compact, String.toList_append, String.toList_append]
      exact h
  | .obj members =>
      have h := Tree.Written.object (written_members members hv.of_member)
      rw [compact, String.toList_append, String.toList_append]
      exact h

/-- The compact form of items, with commas in between, is one way to write
    their trees. -/
theorem written_items (l : List Json) (hl : ∀ v ∈ l, v.NumbersKept) :
    ItemsWritten (itemTrees l) (compactItems l).toList := by
  match l with
  | [] => exact .nil
  | [v] => exact .last (written_compact v (hl v (List.mem_cons_self ..)))
  | v :: w :: rest =>
      obtain ⟨hv, hrest⟩ := List.forall_mem_cons.mp hl
      have h := ItemsWritten.more (written_compact v hv)
        (written_items (w :: rest) hrest)
      rw [compactItems, String.toList_append, String.toList_append,
        List.append_assoc]
      exact h

/-- The compact form of members, each after its name in quotes, is one way to
    write their trees. -/
theorem written_members (l : List (String × Json))
    (hl : ∀ m ∈ l, m.2.NumbersKept) :
    MembersWritten (memberTrees l) (compactMembers l).toList := by
  match l with
  | [] => exact .nil
  | [(k, v)] =>
      have h := MembersWritten.last (quoteWritten_quoted k)
        (written_compact v (hl (k, v) (List.mem_cons_self ..)))
      rw [compactMembers, String.toList_append, String.toList_append,
        List.append_assoc]
      exact h
  | (k, v) :: m :: rest =>
      obtain ⟨hv, hrest⟩ := List.forall_mem_cons.mp hl
      have h := MembersWritten.more (quoteWritten_quoted k)
        (written_compact v hv) (written_members (m :: rest) hrest)
      rw [compactMembers, String.toList_append, String.toList_append,
        String.toList_append, String.toList_append, List.append_assoc,
        List.append_assoc, List.append_assoc]
      exact h

end

/-- The compact form of a value is read as its tree. -/
theorem ofText?_compact {v : Json} (hv : v.NumbersKept) :
    Tree.ofText? v.compact = some (tree v) :=
  ofText?_of_written (written_compact v hv)

/-! ## The tree into a value -/

/-- An object whose keys ascend is not rearranged. -/
theorem ofTable_tableOf {members : List (String × Json)}
    (h : members.Pairwise (fun a b => a.1 < b.1)) :
    ofTable (tableOf members) = .obj members :=
  congrArg ofTable (tableOf_entries ⟨members, h⟩)

mutual

/-- The tree of a value that is held settles into that value if the limit
    leaves room for its depth. -/
theorem settle_tree (v : Json) (hv : v.Held) {limit : Nat}
    (hdepth : v.depth ≤ limit) : settle .any limit (tree v) = some v := by
  match v with
  | .null | .bool _ | .str _ => rfl
  | .number n =>
      rw [tree, settle, (ofChars?_of_kept (hv.numbersKept n .self)).2]
      rfl
  | .arr items =>
      obtain ⟨limit, rfl⟩ : ∃ k, limit = k + 1 :=
        ⟨limit - 1, by rw [depth] at hdepth; omega⟩
      show (settleItems .any limit (itemTrees items)).map Json.arr = _
      rw [settle_items items (held_arr_iff.mp hv)
        (Nat.le_of_succ_le_succ hdepth)]
      rfl
  | .obj members =>
      obtain ⟨limit, rfl⟩ : ∃ k, limit = k + 1 :=
        ⟨limit - 1, by rw [depth] at hdepth; omega⟩
      show (settleMembers .any limit (memberTrees members)).map
        (fun ms => ofTable (tableOf ms)) = _
      rw [settle_members members hv.of_member (Nat.le_of_succ_le_succ hdepth)]
      exact congrArg some (ofTable_tableOf (hv.keys members .self))

/-- The trees of items settle into these items. -/
theorem settle_items (l : List Json) (hl : ∀ v ∈ l, v.Held) {limit : Nat}
    (hdepth : itemDepth l ≤ limit) :
    settleItems .any limit (itemTrees l) = some l := by
  match l with
  | [] => rfl
  | v :: rest =>
      obtain ⟨hv, hrest⟩ := List.forall_mem_cons.mp hl
      rw [itemDepth] at hdepth
      rw [itemTrees, settleItems, settle_tree v hv (by omega),
        settle_items rest hrest (by omega)]
      rfl

/-- The trees of members settle into these members. -/
theorem settle_members (l : List (String × Json)) (hl : ∀ m ∈ l, m.2.Held)
    {limit : Nat} (hdepth : memberDepth l ≤ limit) :
    settleMembers .any limit (memberTrees l) = some l := by
  match l with
  | [] => rfl
  | (k, v) :: rest =>
      obtain ⟨hv, hrest⟩ := List.forall_mem_cons.mp hl
      rw [memberDepth] at hdepth
      rw [memberTrees, settleMembers, settle_tree v hv (by omega),
        settle_members rest hrest (by omega)]
      rfl

end

/-! ## On one line -/

/-- A digit of an escape is no line break. -/
theorem hexDigit_ne_newline {n : Nat} (h : n < 16) : hexDigit n ≠ '\n' := by
  revert n
  decide

/-- A line break in a text is escaped between its quotes. -/
theorem newline_not_mem_quoted (s : String) : '\n' ∉ (quoted s).toList := by
  rw [toList_quoted, quotedChars]
  simp only [List.mem_cons, List.mem_append, List.mem_flatMap, List.not_mem_nil,
    or_false, not_or, not_exists, not_and]
  refine ⟨by decide, fun c _ => ?_, by decide⟩
  rcases escapeChar_cases c with ⟨l, h, -, hl, -⟩ | ⟨h, -⟩ | ⟨h, -, -, hlow⟩
  · rw [h]
    simpa using hl.symm
  · have hdigit : ∀ n, hexDigit (n % 16) ≠ '\n' := fun n =>
      hexDigit_ne_newline (Nat.mod_lt n (by decide))
    rw [h, unitEscape]
    simp [(hdigit _).symm]
  · rw [h, List.mem_singleton]
    rintro rfl
    exact hlow (by decide)

mutual

/-- The compact form of a value stands on one line. -/
theorem newline_not_mem_compact (v : Json) (hv : v.NumbersKept) :
    '\n' ∉ (compact v).toList := by
  match v with
  | .null | .bool true | .bool false => decide
  | .number n =>
      intro hmem
      have hbare := Numeral.isBare_of_ofChars?
        (ofChars?_of_kept (hv n .self)).1 '\n' hmem
      exact absurd hbare (by decide)
  | .str s => exact newline_not_mem_quoted s
  | .arr items =>
      simp [compact, newline_not_mem_compactItems items hv.of_mem]
  | .obj members =>
      simp [compact, newline_not_mem_compactMembers members hv.of_member]

/-- Items in compact form stand on one line. -/
theorem newline_not_mem_compactItems (l : List Json)
    (hl : ∀ v ∈ l, v.NumbersKept) : '\n' ∉ (compactItems l).toList := by
  match l with
  | [] => simp [compactItems]
  | [v] => exact newline_not_mem_compact v (hl v (List.mem_cons_self ..))
  | v :: w :: rest =>
      obtain ⟨hv, hrest⟩ := List.forall_mem_cons.mp hl
      simp [compactItems, newline_not_mem_compact v hv,
        newline_not_mem_compactItems (w :: rest) hrest]

/-- Members in compact form stand on one line, names included. -/
theorem newline_not_mem_compactMembers (l : List (String × Json))
    (hl : ∀ m ∈ l, m.2.NumbersKept) : '\n' ∉ (compactMembers l).toList := by
  match l with
  | [] => simp [compactMembers]
  | [(k, v)] =>
      have hk := newline_not_mem_quoted k
      rw [toList_quoted] at hk
      simp [compactMembers, hk,
        newline_not_mem_compact v (hl (k, v) (List.mem_cons_self ..))]
  | (k, v) :: m :: rest =>
      obtain ⟨hv, hrest⟩ := List.forall_mem_cons.mp hl
      have hk := newline_not_mem_quoted k
      rw [toList_quoted] at hk
      simp [compactMembers, hk, newline_not_mem_compact v hv,
        newline_not_mem_compactMembers (m :: rest) hrest]

end

/-! ## The characters of the indented form -/

/-- The characters of a new line, indented `depth` steps. -/
def newLineChars (depth : Nat) : List Char :=
  '\n' :: List.replicate (2 * depth) ' '

mutual

/-- The characters of the indented form of a value. -/
def indentedChars (depth : Nat) : Json → List Char
  | .null => ['n', 'u', 'l', 'l']
  | .bool b => if b then ['t', 'r', 'u', 'e'] else ['f', 'a', 'l', 's', 'e']
  | .number n => n.text.toList
  | .str s => quotedChars s
  | .arr [] => ['[', ']']
  | .arr (v :: rest) =>
      '[' :: (itemChars (depth + 1) (v :: rest) ++ newLineChars depth ++ [']'])
  | .obj [] => ['\x7b', '\x7d']
  | .obj (m :: rest) =>
      '\x7b' :: (memberChars (depth + 1) (m :: rest) ++ newLineChars depth
        ++ ['\x7d'])

/-- The characters of items on lines of their own. -/
def itemChars (depth : Nat) : List Json → List Char
  | [] => []
  | [v] => newLineChars depth ++ indentedChars depth v
  | v :: w :: rest =>
      newLineChars depth ++ indentedChars depth v
        ++ ',' :: itemChars depth (w :: rest)

/-- The characters of members on lines of their own. -/
def memberChars (depth : Nat) : List (String × Json) → List Char
  | [] => []
  | [(k, v)] =>
      newLineChars depth ++ quotedChars k
        ++ ':' :: ' ' :: indentedChars depth v
  | (k, v) :: m :: rest =>
      newLineChars depth ++ quotedChars k
        ++ ':' :: ' ' :: indentedChars depth v
        ++ ',' :: memberChars depth (m :: rest)

end

/-- The characters of a new line. -/
@[simp] theorem toList_newLine (depth : Nat) :
    (newLine depth).toList = newLineChars depth := by
  rw [newLine, String.toList_ofList, newLineChars]

mutual

/-- The characters of an indented value. -/
theorem toList_indentedAt (depth : Nat) (v : Json) :
    (indentedAt depth v).toList = indentedChars depth v := by
  match v with
  | .null => simp [indentedAt, indentedChars]
  | .bool true => simp [indentedAt, indentedChars]
  | .bool false => simp [indentedAt, indentedChars]
  | .number n => simp [indentedAt, indentedChars]
  | .str s => simp [indentedAt, indentedChars]
  | .arr [] => simp [indentedAt, indentedChars]
  | .arr (v :: rest) =>
      simp [indentedAt, indentedChars, toList_indentedItems]
  | .obj [] => simp [indentedAt, indentedChars]
  | .obj (m :: rest) =>
      simp [indentedAt, indentedChars, toList_indentedMembers]

/-- The characters of indented items. -/
theorem toList_indentedItems (depth : Nat) (l : List Json) :
    (indentedItems depth l).toList = itemChars depth l := by
  match l with
  | [] => rfl
  | [v] => simp [indentedItems, itemChars, toList_indentedAt]
  | v :: w :: rest =>
      simp [indentedItems, itemChars, toList_indentedAt,
        toList_indentedItems depth (w :: rest)]

/-- The characters of indented members. -/
theorem toList_indentedMembers (depth : Nat) (l : List (String × Json)) :
    (indentedMembers depth l).toList = memberChars depth l := by
  match l with
  | [] => rfl
  | [(k, v)] => simp [indentedMembers, memberChars, toList_indentedAt]
  | (k, v) :: m :: rest =>
      simp [indentedMembers, memberChars, toList_indentedAt,
        toList_indentedMembers depth (m :: rest)]

end

/-- The tree of the characters of a text. -/
def treeOf? (cs : List Char) : Option Tree := do
  let b ← Build.start.run (← scanFrom [] .gap cs)
  match b.due with
  | .nothing v => some v
  | _ => none

/-- What is read from an indented form, from its characters. -/
theorem readAs_indented (shape : Shape) (v : Json) :
    readAs shape v.indented
      = (treeOf? (indentedChars 0 v)).bind (settle shape deepest) := by
  unfold readAs Tree.ofText? tokens? indented treeOf?
  rw [toList_indentedAt]
  rfl

end NodeFlow.Json
