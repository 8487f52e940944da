import NodeFlow.Proofs.Json.Compact
import NodeFlow.Script.Json

/-! # JSON texts of scripts

    What a script returns is printed as a JSON text, if it is printed at all
    (`Value.isText_of_json?`): with halves of characters in its texts, with any
    numbers, and without the members that JSON cannot express.  A text of whole
    characters is quoted like anywhere else (`Value.quotedUnits_units`). -/

namespace NodeFlow

/-! ## Characters and halves of them -/

namespace Text

/-- The units of a character are that character again. -/
theorem glyphs_charUnits (c : Char) (rest : List Nat) :
    glyphs (charUnits c ++ rest) = .char c :: glyphs rest := by
  have hvalid : c.toNat < 0xD800 ∨ 0xDFFF < c.toNat ∧ c.toNat < 0x110000 :=
    c.valid
  unfold charUnits
  dsimp only
  split
  · have hhigh : isHighHalf c.toNat = false := by
      simp only [isHighHalf, Bool.and_eq_false_iff, decide_eq_false_iff_not]
      omega
    have hhalf : isHalf c.toNat = false := by
      simp only [isHalf, Bool.and_eq_false_iff, decide_eq_false_iff_not]
      omega
    cases rest <;> simp [glyphs, hhigh, hhalf]
  · -- two halves, the high one first
    have hhigh : isHighHalf (0xD800 + (c.toNat - 0x10000) / 0x400) = true := by
      simp only [isHighHalf, Bool.and_eq_true, decide_eq_true_eq]
      omega
    have hhalf : isHalf (0xDC00 + (c.toNat - 0x10000) % 0x400) = true := by
      simp only [isHalf, Bool.and_eq_true, decide_eq_true_eq]
      omega
    have hlow : isHighHalf (0xDC00 + (c.toNat - 0x10000) % 0x400) = false := by
      simp only [isHighHalf, Bool.and_eq_false_iff, decide_eq_false_iff_not]
      omega
    have hjoin : joinHalves (0xD800 + (c.toNat - 0x10000) / 0x400)
        (0xDC00 + (c.toNat - 0x10000) % 0x400) = c := by
      rw [joinHalves, show 0x10000 + (0xD800 + (c.toNat - 0x10000) / 0x400
        - 0xD800) * 0x400 + (0xDC00 + (c.toNat - 0x10000) % 0x400 - 0xDC00)
        = c.toNat by omega, Char.ofNat_toNat]
    simp [glyphs, hhigh, hhalf, hlow, hjoin]

/-- A text consists of its characters. -/
theorem glyphs_units (s : String) : glyphs (units s) = s.toList.map .char := by
  unfold units
  generalize s.toList = cs
  induction cs with
  | nil => rfl
  | cons c cs ih =>
      rw [List.flatMap_cons, glyphs_charUnits, ih, List.map_cons]

/-- Half a pair has 16 bits. -/
theorem lt_of_half_mem_glyphs {us : List Nat} {u : Nat}
    (h : .half u ∈ glyphs us) : u < 65536 := by
  have hlt : ∀ {n : Nat}, isHalf n = true → n < 65536 := by
    intro n hn
    simp only [isHalf, Bool.and_eq_true, decide_eq_true_eq] at hn
    omega
  fun_induction glyphs us with
  | case1 => cases h
  | case2 n =>
      split at h
      · cases List.mem_singleton.mp h
        exact hlt ‹_›
      · cases List.mem_singleton.mp h
  | case3 n m rest hpair ih =>
      rcases List.mem_cons.mp h with h | h
      · cases h
      · exact ih h
  | case4 n m rest hpair hhalf ih =>
      rcases List.mem_cons.mp h with h | h
      · cases h
        exact hlt hhalf
      · exact ih h
  | case5 n m rest hpair hhalf ih =>
      rcases List.mem_cons.mp h with h | h
      · cases h
      · exact ih h

end Text

namespace Script

open Json (IsText Piece PiecesWritten QuoteWritten Tree ItemsWritten
  MembersWritten)

namespace Value

/-! ## Quoted texts -/

/-- How a glyph is read between quotes. -/
def pieceOfGlyph : Text.Glyph → Piece
  | .char c => Json.pieceOf c
  | .half u => .unit u

/-- What is printed for the glyphs of a text is read piece by piece. -/
theorem piecesWritten_glyphs {gs : List Text.Glyph}
    (h : ∀ u, .half u ∈ gs → u < 65536) :
    PiecesWritten (gs.map pieceOfGlyph) (gs.flatMap glyphJson) := by
  induction gs with
  | nil => exact .nil
  | cons g gs ih =>
      refine .cons ?_ (ih (fun u hu => h u (List.mem_cons_of_mem _ hu)))
      cases g with
      | char c => exact Json.written_escapeChar c
      | half u => exact .unit (h u (List.mem_cons_self ..))

/-- The characters of a printed text. -/
theorem toList_quotedUnits (us : List Nat) :
    (quotedUnits us).toList
      = '"' :: ((Text.glyphs us).flatMap glyphJson ++ ['"']) := by
  simp [quotedUnits]

/-- Whatever its code units are, a text is printed between quotes so that it
    can be read. -/
theorem exists_quoteWritten (us : List Nat) :
    ∃ s, QuoteWritten s (quotedUnits us).toList := by
  rw [toList_quotedUnits]
  exact ⟨_, .quote (piecesWritten_glyphs
    (fun _ => Text.lt_of_half_mem_glyphs))⟩

/-- A text of whole characters is quoted like anywhere else. -/
theorem quotedUnits_units (s : String) :
    quotedUnits (Text.units s) = Json.quoted s := by
  rw [← String.toList_inj, toList_quotedUnits, Text.glyphs_units,
    Json.toList_quoted, Json.quotedChars, List.flatMap_map]
  rfl

/-- A number in decimal is quoted as it is. -/
theorem exists_quoteWritten_toString (n : Nat) :
    ∃ s, QuoteWritten s ("\"" ++ toString n ++ "\"").toList := by
  -- a digit is none of the characters that are escaped
  have hplain : ∀ c : Char, c.isDigit = true → (Piece.char c).Written [c] := by
    intro c hc
    have hlow := hc
    simp only [Char.isDigit, Bool.and_eq_true, decide_eq_true_eq, ge_iff_le,
      UInt32.le_iff_toNat_le] at hlow
    have hlow : 48 ≤ c.toNat := hlow.1
    refine .plain ?_ ?_ (by omega) <;>
      · rintro rfl
        exact absurd hc (by decide)
  have hpieces : ∀ ds : List Char, (∀ c ∈ ds, c.isDigit = true) →
      PiecesWritten (ds.map .char) ds := by
    intro ds hds
    induction ds with
    | nil => exact .nil
    | cons d ds ih =>
        obtain ⟨hd, hds⟩ := List.forall_mem_cons.mp hds
        exact .cons (hplain d hd) (ih hds)
  have hchars : ("\"" ++ toString n ++ "\"").toList
      = '"' :: (Nat.toDigits 10 n ++ ['"']) := by
    simp
  rw [hchars]
  exact ⟨_, .quote (hpieces _ (List.all_eq_true.mp (isDigit_toDigits n)))⟩

/-! ## Texts side by side -/

/-- Whether a text is that of a member of an object. -/
def IsMember (s : String) : Prop :=
  ∃ k ks t cs, QuoteWritten k ks ∧ Tree.Written t cs
    ∧ s.toList = ks ++ ':' :: cs

/-- Printed items with commas in between are the items of a list. -/
theorem exists_itemsWritten {s : String} {l : List String}
    (h : ∀ r ∈ s :: l, IsText r) :
    ∃ t ts, ItemsWritten (t :: ts) (",".intercalate (s :: l)).toList := by
  induction l generalizing s with
  | nil =>
      obtain ⟨t, ht⟩ := h s (List.mem_cons_self ..)
      exact ⟨t, [], .last ht⟩
  | cons r l ih =>
      obtain ⟨⟨t, ht⟩, hl⟩ := List.forall_mem_cons.mp h
      obtain ⟨u, ts, hts⟩ := ih hl
      refine ⟨t, u :: ts, ?_⟩
      rw [String.intercalate_cons_cons, String.toList_append,
        String.toList_append, List.append_assoc]
      exact .more ht hts

/-- Printed members with commas in between are the members of an object. -/
theorem exists_membersWritten {s : String} {l : List String}
    (h : ∀ r ∈ s :: l, IsMember r) :
    ∃ m ms, MembersWritten (m :: ms) (",".intercalate (s :: l)).toList := by
  induction l generalizing s with
  | nil =>
      obtain ⟨k, ks, t, cs, hk, ht, heq⟩ := h s (List.mem_cons_self ..)
      refine ⟨(k, t), [], ?_⟩
      rw [String.intercalate_singleton, heq]
      exact .last hk ht
  | cons r l ih =>
      obtain ⟨⟨k, ks, t, cs, hk, ht, heq⟩, hl⟩ := List.forall_mem_cons.mp h
      obtain ⟨m, ms, hms⟩ := ih hl
      refine ⟨(k, t), m :: ms, ?_⟩
      rw [String.intercalate_cons_cons, String.toList_append,
        String.toList_append, heq, List.append_assoc, List.append_assoc]
      exact .more hk ht hms

theorem isText_null : IsText "null" := ⟨_, .literal none⟩

/-! ## Values -/

/-- Printed items between square brackets are a text of JSON. -/
theorem isText_list {l : List String} (h : ∀ s ∈ l, IsText s) :
    IsText ("[" ++ ",".intercalate l ++ "]") := by
  rw [IsText, String.toList_append, String.toList_append]
  cases l with
  | nil => exact ⟨.list [], .list .nil⟩
  | cons s l =>
      obtain ⟨t, ts, hts⟩ := exists_itemsWritten h
      exact ⟨.list (t :: ts), .list hts⟩

/-- Printed members between braces are a text of JSON. -/
theorem isText_object {l : List String} (h : ∀ s ∈ l, IsMember s) :
    IsText ("\x7b" ++ ",".intercalate l ++ "\x7d") := by
  rw [IsText, String.toList_append, String.toList_append]
  cases l with
  | nil => exact ⟨.object [], .object .nil⟩
  | cons s l =>
      obtain ⟨m, ms, hms⟩ := exists_membersWritten h
      exact ⟨.object (m :: ms), .object hms⟩

/-- A printed name and a printed value are a member. -/
theorem isMember_quotedUnits (us : List Nat) {s : String} (h : IsText s) :
    IsMember (quotedUnits us ++ ":" ++ s) := by
  obtain ⟨k, hk⟩ := exists_quoteWritten us
  obtain ⟨t, ht⟩ := h
  refine ⟨k, _, t, _, hk, ht, ?_⟩
  rw [String.toList_append, String.toList_append, List.append_assoc]
  rfl

mutual

/-- The JSON text of a value is one of a tree. -/
theorem isText_of_json? (v : Value) {s : String} (h : v.json? = some s) :
    IsText s := by
  match v with
  | .undefined | .function _ _ _ | .big _ => cases h
  | .null => cases h; exact isText_null
  | .bool true => cases h; exact ⟨_, .literal (some true)⟩
  | .bool false => cases h; exact ⟨_, .literal (some false)⟩
  | .number (.finite x) =>
      cases h
      -- the shortest numeral is one of JSON
      obtain ⟨n, hn, hchars⟩ :=
        Shortest.exists_numeral_render Num.layout (by decide) x
      refine ⟨.numeral n, .numeral ?_⟩
      rw [Num.text, ← hchars]
      exact Numeral.ofChars?_chars hn
  | .number .nan => cases h; exact isText_null
  | .number (.infinite _) => cases h; exact isText_null
  | .text us =>
      cases h
      obtain ⟨k, hk⟩ := exists_quoteWritten us
      exact ⟨.text k, .text hk⟩
  | .list items => cases h; exact isText_list (isText_of_itemsJson items)
  | .object _ ms => cases h; exact isText_object (isMember_of_membersJson ms)
  | .arguments items =>
      cases h
      exact isText_object (isMember_of_placedJson 0 items)
  | .fault _ _ => cases h; exact ⟨_, .object .nil⟩
  | .builtin path =>
      rw [json?] at h
      split at h
      · cases h
      split at h
      · cases h; exact ⟨_, .list .nil⟩
      · cases h; exact ⟨_, .object .nil⟩

/-- By recursion over the items: each is printed as JSON. -/
theorem isText_of_itemsJson (items : List Value) :
    ∀ s ∈ itemsJson items, IsText s := by
  match items with
  | [] => exact fun _ => nofun
  | v :: rest =>
      refine List.forall_mem_cons.mpr ⟨?_, isText_of_itemsJson rest⟩
      cases h : v.json? with
      | none => exact isText_null
      | some s => exact isText_of_json? v h

/-- By recursion over the members: each is printed as a member. -/
theorem isMember_of_membersJson (ms : List (List Nat × Value)) :
    ∀ s ∈ membersJson ms, IsMember s := by
  match ms with
  | [] => exact fun _ => nofun
  | (k, v) :: rest =>
      refine List.forall_mem_append.mpr ⟨?_, isMember_of_membersJson rest⟩
      cases h : v.json? with
      | none => exact fun _ => nofun
      | some s =>
          refine List.forall_mem_singleton.mpr ?_
          exact isMember_quotedUnits k (isText_of_json? v h)

/-- By recursion over the items: each is printed as a member under its
    place. -/
theorem isMember_of_placedJson (i : Nat) (items : List Value) :
    ∀ s ∈ placedJson i items, IsMember s := by
  match items with
  | [] => exact fun _ => nofun
  | v :: rest =>
      refine List.forall_mem_append.mpr
        ⟨?_, isMember_of_placedJson (i + 1) rest⟩
      cases h : v.json? with
      | none => exact fun _ => nofun
      | some s =>
          obtain ⟨k, hk⟩ := exists_quoteWritten_toString i
          obtain ⟨t, ht⟩ := isText_of_json? v h
          refine List.forall_mem_singleton.mpr
            ⟨_, _, t, _, hk, ht, ?_⟩
          simp [String.toList_append]

end

end Value
end Script
end NodeFlow
