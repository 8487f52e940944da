import NodeFlow.Proofs.Forms
import NodeFlow.Proofs.Json.Compact
import NodeFlow.Proofs.Text

/-! # The reply of an interpreter

    An envelope that was printed in compact form stands on one line, whatever
    texts it holds, and is read from that line.  It is found at the end of an
    output, whatever was printed before, because only blank lines come after
    it (`ofOutput_last_line`). -/

namespace NodeFlow

namespace Json

/-! ## Records of values -/

/-- Members that are all known and may be of any kind become a table. -/
theorem settleFields_memberTrees {fields : List (String × Shape)}
    {checked : Bool} {limit : Nat} {l : List (String × Json)}
    (hknown : ∀ m ∈ l, fieldShape? m.1 fields = some .any)
    (hnodup : (l.map (·.1)).Nodup) (hheld : ∀ m ∈ l, m.2.Held)
    (hdepth : ∀ m ∈ l, m.2.depth ≤ limit) (known : Table String Json)
    (hfresh : ∀ m ∈ l, known.contains m.1 = false) :
    settleFields fields checked limit known (memberTrees l)
      = some (ofTable (l.foldl (fun t m => t.insert m.1 m.2) known)) := by
  induction l generalizing known with
  | nil => rfl
  | cons m rest ih =>
      obtain ⟨k, v⟩ := m
      simp only [List.forall_mem_cons] at hknown hheld hdepth hfresh
      rw [List.map_cons, List.nodup_cons] at hnodup
      have hrest : ∀ m ∈ rest, (known.insert k v).contains m.1 = false := by
        intro m hm
        have hne : m.1 ≠ k := by
          rintro rfl
          exact hnodup.1 (List.mem_map.mpr ⟨m, hm, rfl⟩)
        simp [Table.contains_insert, hne, hfresh.2 m hm]
      rw [memberTrees, settleFields]
      simp only [Option.bind_eq_bind, Option.bind_some, hknown.1, hfresh.1,
        Bool.false_eq_true, if_false, settle_tree v hheld.1 hdepth.1]
      exact ih hknown.2 hnodup.2 hheld.2 hdepth.2 _ hrest

/-- A printed record whose members may be of any kind is read as a table of
    them. -/
theorem readAs_compact {fields : List (String × Shape)} {checked : Bool}
    {l : List (String × Json)}
    (hknown : ∀ m ∈ l, fieldShape? m.1 fields = some .any)
    (hnodup : (l.map (·.1)).Nodup) (hheld : ∀ m ∈ l, m.2.Held)
    (hdepth : ∀ m ∈ l, m.2.depth < deepest) :
    readAs (.record fields checked) (Json.obj l).compact
      = some (.ofTable (tableOf l)) := by
  unfold readAs
  rw [ofText?_compact (numbersKept_obj hheld)]
  exact settleFields_memberTrees hknown hnodup hheld
    (fun m hm => Nat.le_of_lt_succ (hdepth m hm)) Table.empty (fun _ _ => rfl)

/-- Members under distinct names make the same table in any order. -/
theorem tableOf_perm {l own : List (String × Json)} (h : l.Perm own)
    (hnodup : (own.map (·.1)).Nodup) : tableOf l = tableOf own := by
  refine Table.ext_get? (fun k => Option.ext (fun v => ?_))
  have hl := (h.map (·.1)).nodup_iff.mpr hnodup
  rw [tableOf, tableOf, Table.get?_ofList_eq_some_iff hl,
    Table.get?_ofList_eq_some_iff hnodup, h.mem_iff]

end Json

namespace Envelope

/-- The members of a printed envelope. -/
def members (e : Envelope) : List (String × Json) :=
  [("ok", .bool e.ok), ("value", e.value.getD .null),
    ("detail", (e.detail.map Json.str).getD .null)]

/-- Whether the value of an envelope is such that can be printed and read. -/
structure Printable (e : Envelope) : Prop where
  /-- The value is one that the program holds. -/
  held : ∀ v, e.value = some v → v.Held
  /-- With the envelope around it, it is not nested too deep. -/
  depth : ∀ v, e.value = some v → v.depth ≤ 126

/-- Whether a line is the last of a text that is not blank. -/
def LastLine (output line : String) : Prop :=
  ∃ before after, Text.lines output = before ++ line :: after
    ∧ Text.allBlank line = false ∧ ∀ l ∈ after, Text.allBlank l = true

variable {e : Envelope} {ms : List (String × Json)} {output line : String}

/-! ## The line that counts -/

theorem lastLine_iff :
    LastLine output line ↔
      (Text.lines output).reverse.find? (fun l => !Text.allBlank l)
        = some line := by
  rw [List.find?_eq_some_iff_append]
  constructor
  · rintro ⟨before, after, hlines, hline, hafter⟩
    exact ⟨by simp [hline], after.reverse, before.reverse, by simp [hlines],
      fun l hl => by simp [hafter l (List.mem_reverse.mp hl)]⟩
  · rintro ⟨hline, after, before, hlines, hafter⟩
    refine ⟨before.reverse, after.reverse, ?_, by simpa using hline,
      fun l hl => by simpa using hafter l (List.mem_reverse.mp hl)⟩
    rw [← List.reverse_reverse (Text.lines output), hlines]
    simp

theorem ofOutput_of_lastLine (h : LastLine output line)
    (he : ofLine? line = some e) : ofOutput output = .ok e := by
  simp only [ofOutput, lastLine_iff.mp h, he]

theorem ofOutput_of_invalid (h : LastLine output line)
    (hnone : ofLine? line = none) :
    ofOutput output = .error (.bridge invalidReply) := by
  simp only [ofOutput, lastLine_iff.mp h, hnone]

theorem ofOutput_of_no_lastLine (h : ¬ ∃ line, LastLine output line) :
    ofOutput output = .error (.bridge "interpreter produced no output") := by
  cases hfind : (Text.lines output).reverse.find?
      (fun l => !Text.allBlank l) with
  | none => simp only [ofOutput, hfind]
  | some line => exact absurd ⟨line, lastLine_iff.mpr hfind⟩ h

/-- A line that is not blank is the last such line where only blanks come
    after it. -/
theorem lastLine_append (hwhole : Text.Whole line.toList)
    (hline : Text.allBlank line = false) (noise : String) {tail : String}
    (htail : Text.allBlank tail = true) :
    LastLine (noise ++ "\n" ++ line ++ "\n" ++ tail) line := by
  have happend : (noise ++ "\n" ++ line ++ "\n" ++ tail).toList
      = noise.toList ++ '\n' :: (line.toList ++ '\n' :: tail.toList) := by
    simp [String.toList_append]
  have hlines : Text.lines (noise ++ "\n" ++ line ++ "\n" ++ tail)
      = ((Text.stretches noise.toList).map Text.dropReturn).map String.ofList
        ++ line :: Text.lines tail := by
    rw [Text.lines, happend, Text.charLines_append_newline,
      Text.charLines_append_newline, Text.stretches_of_not_mem hwhole.one,
      List.map_singleton, Text.dropReturn, if_neg hwhole.kept, List.map_append,
      List.singleton_append, List.map_cons, String.ofList_toList]
    rfl
  refine ⟨_, _, hlines, hline, fun l hl => ?_⟩
  obtain ⟨cs, hcs, rfl⟩ := List.mem_map.mp hl
  rw [Text.allBlank, String.toList_ofList, List.all_eq_true]
  exact fun c hc => List.all_eq_true.mp htail c
    (Text.subset_of_mem_charLines hcs hc)

/-! ## A printed envelope -/

theorem Printable.held_of_mem (h : e.Printable) :
    ∀ m ∈ e.members, m.2.Held ∧ m.2.depth ≤ 126 := by
  have hvalue : (e.value.getD .null).Held
      ∧ (e.value.getD .null).depth ≤ 126 := by
    cases hv : e.value with
    | none => exact ⟨Json.held_null, Nat.zero_le _⟩
    | some v => exact ⟨h.held v hv, h.depth v hv⟩
  have hdetail : ((e.detail.map Json.str).getD .null).Held
      ∧ ((e.detail.map Json.str).getD .null).depth ≤ 126 := by
    cases e.detail with
    | none => exact ⟨Json.held_null, Nat.zero_le _⟩
    | some s => exact ⟨Json.held_str s, Nat.zero_le _⟩
  simp only [members, List.forall_mem_cons, List.not_mem_nil, false_implies,
    implies_true, and_true]
  exact ⟨⟨Json.held_bool _, Nat.zero_le _⟩, hvalue, hdetail⟩

theorem members_nodup (e : Envelope) : (e.members.map (·.1)).Nodup := by
  simp [members]

/-- In whatever order the members stand, they are read alike. -/
theorem ofJson_ofTable (hms : ms.Perm e.members) :
    ofJson (.ofTable (Json.tableOf ms)) = .ok e.reread := by
  have hswap : (e.members.take 2 ++ e.members.drop 2).Perm
      (e.members.drop 2 ++ e.members.take 2) := List.perm_append_comm
  have htable := Json.tableOf_perm (hms.trans hswap) (by simp [members])
  have hfields : Fields.ofJson "Envelope" 3 (.ofTable (Json.tableOf ms))
      = Fields.ofJson "Envelope" 3 e.toJson := by
    rw [Json.ofTable, toJson, Fields.ofJson_obj, Fields.ofJson_obj,
      Json.tableOf_entries, htable]
    rfl
  rw [ofJson, hfields]
  exact ofJson_toJson e

/-- A printed envelope is read from its line. -/
theorem Printable.ofLine?_compact (h : e.Printable) (hms : ms.Perm e.members) :
    ofLine? (Json.obj ms).compact = some e.reread := by
  have hall : ∀ m ∈ ms, m.2.Held ∧ m.2.depth ≤ 126 := fun m hm =>
    h.held_of_mem m (hms.mem_iff.mp hm)
  have hknown : ∀ m ∈ ms, Json.fieldShape? m.1
      [("ok", .any), ("value", .any), ("detail", .any)] = some .any := by
    intro m hm
    have hmem := hms.mem_iff.mp hm
    simp only [members, List.mem_cons, List.not_mem_nil, or_false] at hmem
    rcases hmem with rfl | rfl | rfl <;> rfl
  have hread : Json.readAs shape (Json.obj ms).compact
      = some (.ofTable (Json.tableOf ms)) :=
    Json.readAs_compact hknown ((hms.map (·.1)).nodup_iff.mpr e.members_nodup)
      (fun m hm => (hall m hm).1)
      (fun m hm => Nat.lt_succ_of_le (hall m hm).2)
  rw [ofLine?, hread, Option.bind_eq_bind, Option.bind_some,
    ofJson_ofTable hms]
  rfl

/-- A printed envelope is one line, and not a blank one. -/
theorem Printable.whole_compact (h : e.Printable) (hms : ms.Perm e.members) :
    Text.Whole (Json.obj ms).compact.toList
      ∧ Text.allBlank (Json.obj ms).compact = false := by
  have hbraces : (Json.obj ms).compact.toList
      = '\x7b' :: ((Json.compactMembers ms).toList ++ ['\x7d']) := by
    rw [Json.compact, String.toList_append, String.toList_append,
      List.append_assoc]
    rfl
  have hnumbers : (Json.obj ms).NumbersKept :=
    Json.numbersKept_obj (fun m hm =>
      (h.held_of_mem m (hms.mem_iff.mp hm)).1)
  refine ⟨⟨Json.newline_not_mem_compact _ hnumbers, ?_, ?_⟩, ?_⟩
  · rw [hbraces]
    exact List.cons_ne_nil _ _
  · rw [hbraces, ← List.cons_append, List.getLast?_concat]
    decide
  · rw [Text.allBlank, hbraces]
    rfl

/-- Whatever was printed before an envelope, and whatever blank lines come
    after it, it is what is read.  Of any output only the last line that is
    not blank counts; if there is none, or if it holds no envelope, reading
    fails as a failure of the bridge. -/
theorem ofOutput_last_line :
    (∀ (noise tail : String) (e : Envelope) (ms : List (String × Json)),
        e.Printable → ms.Perm e.members → Text.allBlank tail = true →
          ofOutput (noise ++ "\n" ++ (Json.obj ms).compact ++ "\n" ++ tail)
            = .ok { e with value := e.value.filter (· ≠ .null) })
      ∧ (∀ output line, LastLine output line →
          (∀ e, ofLine? line = some e → ofOutput output = .ok e)
            ∧ (ofLine? line = none →
              ofOutput output = .error (.bridge invalidReply)))
      ∧ ∀ output, (¬ ∃ line, LastLine output line) →
          ofOutput output
            = .error (.bridge "interpreter produced no output") := by
  refine ⟨fun noise tail e ms h hms htail => ?_,
    fun _ _ h => ⟨fun _ => ofOutput_of_lastLine h, ofOutput_of_invalid h⟩,
    fun _ => ofOutput_of_no_lastLine⟩
  obtain ⟨hwhole, hline⟩ := h.whole_compact hms
  exact ofOutput_of_lastLine (lastLine_append hwhole hline noise htail)
    (h.ofLine?_compact hms)

/-- A reply after a line that looks like one, with the number 2.5 and a text of
    two lines in it, and before blank lines. -/
theorem ofOutput_last_line_noisy :
    ofOutput
        ("\x7b\"ok\":false\x7d\nprinted" ++ "\n"
          ++ (Json.obj
              [("ok", .bool true),
                ("value",
                  .arr
                    [.ofInt 4, .number (.real ⟨false, 5 * 2 ^ 50, -51⟩),
                      .str "one\ntwo"]),
                ("detail", .null)]).compact
          ++ "\n" ++ " \r\n\t")
      = .ok
          ⟨true,
            some
              (.arr
                [.ofInt 4, .number (.real ⟨false, 5 * 2 ^ 50, -51⟩),
                  .str "one\ntwo"]),
            none⟩ := by
  have hreal : (Number.real ⟨false, 5 * 2 ^ 50, -51⟩).Kept := by
    unfold Number.Kept
    decide
  refine ofOutput_last_line.1 _ _ ⟨true, some _, none⟩ _ ⟨?_, ?_⟩ (.refl _)
    (by decide)
  · rintro _ ⟨⟩
    simp only [Json.held_arr_iff, List.forall_mem_cons, List.not_mem_nil,
      false_implies, implies_true, and_true]
    exact ⟨Json.held_ofInt (by decide), Json.held_real hreal, Json.held_str _⟩
  · rintro _ ⟨⟩
    decide

end Envelope
end NodeFlow
