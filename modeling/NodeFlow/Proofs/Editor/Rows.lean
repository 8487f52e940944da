import Mathlib.Data.List.Forall2
import NodeFlow.Proofs.Editor.Canonical

/-! # The rows of a structure text

    A text is cut into rows at its line feeds, and blanks at the end of a row
    do not count.  A row may say nothing, give the title, start a list of
    ports, name a port behind a dash, or be none of these.  Which of these it
    is depends on the row alone (`says_iff`), and the reader takes every line
    for what its row says (`forall₂_says_iff`). -/

namespace NodeFlow.Structure

/-- The rows of a text.  A carriage return before a line feed is a blank at
    the end of a row. -/
def rows (text : String) : List (List Char) :=
  (text.toList.splitOn '\n').map Text.trimEndChars

/-- What stands behind a dash names a port: the name ends at the first blank
    with an opening parenthesis after it, and the type at the closing
    parenthesis in the end. -/
inductive Names (body : List Char) : Port → Prop
  | mk {name type : List Char}
      (whole : Text.trimChars body
        = name ++ " (".toList ++ type ++ ")".toList)
      (first : ¬ " (".toList <:+: name)
      (name_ne : Text.trimChars name ≠ [])
      (type_ne : Text.trimChars type ≠ []) :
      Names body
        { name := String.ofList (Text.trimChars name)
          type := String.ofList (Text.trimChars type) }

/-- The row that starts a list of ports. -/
def headerRow (which : Section) : List Char := (which.word ++ ":").toList

/-- What a row says. -/
inductive Says : List Char → Line → Prop
  /-- An empty row says nothing. -/
  | blank : Says [] .blank
  /-- The title stands behind a word of its own. -/
  | title (rest : List Char) :
      Says ("title:".toList ++ rest)
        (.title (String.ofList (Text.trimChars rest)))
  /-- A list of ports starts. -/
  | header (which : Section) : Says (headerRow which) (.header which)
  /-- A port stands behind a dash. -/
  | item {body : List Char} {p : Port} (h : Names body p) :
      Says ("  - ".toList ++ body) (.item (some p))
  /-- Something else stands behind a dash. -/
  | malformed {body : List Char} (h : ∀ p, ¬ Names body p) :
      Says ("  - ".toList ++ body) (.item none)
  /-- None of these. -/
  | other {cs : List Char} (blank : cs ≠ [])
      (title : ¬ "title:".toList <+: cs)
      (header : ∀ which, cs ≠ headerRow which)
      (dash : ¬ "  - ".toList <+: cs) : Says cs .other

variable {cs : List Char} {l : Line}

/-! ## One row -/

theorem afterStart?_append (start rest : List Char) :
    afterStart? start (start ++ rest) = some rest := by
  induction start with
  | nil => rfl
  | cons a start ih => rw [List.cons_append, afterStart?, if_pos rfl, ih]

theorem afterStart?_eq_some_iff {start rest : List Char} :
    afterStart? start cs = some rest ↔ cs = start ++ rest :=
  ⟨eq_append_of_afterStart?, fun h => h ▸ afterStart?_append start rest⟩

theorem afterStart?_eq_none_iff {start : List Char} :
    afterStart? start cs = none ↔ ¬ start <+: cs := by
  rw [Option.eq_none_iff_forall_ne_some, List.IsPrefix, not_exists]
  exact forall_congr' (fun rest =>
    not_congr (afterStart?_eq_some_iff.trans eq_comm))

/-- A port is read exactly where one is named. -/
theorem portOf?_eq_some_iff {body : List Char} {p : Port} :
    portOf? body = some p ↔ Names body p := by
  constructor
  · intro h
    simp only [portOf?, Option.bind_eq_bind, Option.bind_eq_some_iff] at h
    obtain ⟨inner, hinner, ⟨name, type⟩, hsplit, h⟩ := h
    simp only at h
    split at h
    · cases h
    · rename_i hne
      cases h
      obtain ⟨rfl, hfirst⟩ := eq_append_of_splitOpen hsplit
      -- the brackets are where the reader has found them
      have hwhole := eq_append_of_beforeClose? hinner
      rw [Bool.or_eq_true, List.isEmpty_iff, List.isEmpty_iff, not_or] at hne
      exact .mk (by simpa using hwhole) hfirst hne.1 hne.2
  · rintro ⟨hwhole, hfirst, hname, htype⟩
    rename_i name type
    have hwhole' : Text.trimChars body
        = (name ++ ' ' :: '(' :: type) ++ [')'] := by
      simpa using hwhole
    rw [portOf?, hwhole', beforeClose?_append]
    simp [splitOpen_append type hfirst, hname, htype]

/-- A line says what its row says. -/
theorem says_ofChars (cs : List Char) :
    Says (Text.trimEndChars cs) (Line.ofChars cs) := by
  unfold Line.ofChars
  -- the cases are those of the reader, in its order; each says why none before
  -- it has applied
  generalize Text.trimEndChars cs = row
  simp only [List.isEmpty_iff]
  split
  · rename_i h
    rw [h]
    exact .blank
  · rename_i hblank
    split
    · rename_i rest h
      rw [afterStart?_eq_some_iff.mp h]
      exact .title rest
    · rename_i htitle
      split
      · rename_i h
        rw [h]
        exact .header .inputs
      · rename_i hin
        split
        · rename_i h
          rw [h]
          exact .header .outputs
        · rename_i hout
          split
          · rename_i body h
            rw [afterStart?_eq_some_iff.mp h]
            cases hp : portOf? body with
            | some p => exact .item (portOf?_eq_some_iff.mp hp)
            | none =>
                refine .malformed (fun p hn => ?_)
                rw [portOf?_eq_some_iff.mpr hn] at hp
                cases hp
          · rename_i hdash
            refine .other hblank (afterStart?_eq_none_iff.mp htitle) ?_
              (afterStart?_eq_none_iff.mp hdash)
            rintro (_ | _)
            · exact hin
            · exact hout

/-- The line that a row is taken for is the one that says what it says. -/
theorem Says.ofChars_eq (h : Says (Text.trimEndChars cs) l) :
    Line.ofChars cs = l := by
  unfold Line.ofChars
  generalize Text.trimEndChars cs = row at h
  cases h with
  | blank => rfl
  | title rest => simp [afterStart?]
  | header which => cases which <;> rfl
  | item h => simp [afterStart?, portOf?_eq_some_iff.mpr h]
  | @malformed body h =>
      have hnone : portOf? body = none := by
        rw [Option.eq_none_iff_forall_ne_some]
        exact fun p hp => h p (portOf?_eq_some_iff.mp hp)
      simp [afterStart?, hnone]
  | other blank title header dash =>
      have hin : row ≠ "inputs:".toList := header .inputs
      have hout : row ≠ "outputs:".toList := header .outputs
      simp only [List.isEmpty_iff, if_neg blank, if_neg hin, if_neg hout,
        afterStart?_eq_none_iff.mpr title, afterStart?_eq_none_iff.mpr dash]

/-- What a row says is what its line is read as. -/
theorem says_iff : Says (Text.trimEndChars cs) l ↔ l = Line.ofChars cs :=
  ⟨fun h => h.ofChars_eq.symm, fun h => h ▸ says_ofChars cs⟩

/-! ## All rows -/

/-- The stretches between line feeds are what splitting there leaves. -/
theorem stretches_eq_splitOn (cs : List Char) :
    Text.stretches cs = cs.splitOn '\n' := by
  induction cs with
  | nil => rfl
  | cons c rest ih =>
      have hsplit : (c :: rest).splitOn '\n'
          = if c = '\n' then [] :: rest.splitOn '\n'
            else (rest.splitOn '\n').modifyHead (List.cons c) := by
        simp [List.splitOn, List.splitOnP_cons_eq_if_modifyHead]
      rw [Text.stretches, ih, hsplit]
      split
      · rfl
      · cases h : rest.splitOn '\n' with
        | nil => exact absurd h (List.splitOn_ne_nil _ _)
        | cons s more => rfl

/-- A carriage return is a blank. -/
theorem ofChars_dropReturn (cs : List Char) :
    Line.ofChars (Text.dropReturn cs) = Line.ofChars cs := by
  suffices h : Text.trimEndChars (Text.dropReturn cs) = Text.trimEndChars cs by
    unfold Line.ofChars
    rw [h]
  unfold Text.dropReturn
  split
  · rename_i hlast
    obtain ⟨init, rfl⟩ := List.getLast?_eq_some_iff.mp hlast
    have hblank : Text.isBlank '\r' = true := by decide
    simp [Text.trimEndChars, hblank]
  · rfl

/-- The lines of a text are its rows, up to an empty one in the end. -/
theorem map_ofChars_splitOn (text : String) :
    ∃ last, (last = [] ∨ last = [Line.blank])
      ∧ (text.toList.splitOn '\n').map Line.ofChars
        = (Text.charLines text.toList).map Line.ofChars ++ last := by
  obtain ⟨init, final, hsplit⟩ := List.eq_nil_or_concat'
    (text.toList.splitOn '\n') |>.resolve_left (List.splitOn_ne_nil _ _)
  have hinit : (init.map Text.dropReturn).map Line.ofChars
      = init.map Line.ofChars := by
    rw [List.map_map]
    exact List.map_congr_left (fun cs _ => ofChars_dropReturn cs)
  unfold Text.charLines
  rw [stretches_eq_splitOn, hsplit]
  by_cases hfinal : final = []
  · exact ⟨[.blank], Or.inr rfl, by simp [hinit, hfinal]; rfl⟩
  · exact ⟨[], Or.inl rfl, by simp [hinit, hfinal]⟩

/-- What the rows of a text say is determined. -/
theorem forall₂_says_iff (text : String) (ls : List Line) :
    List.Forall₂ Says (rows text) ls
      ↔ ls = (text.toList.splitOn '\n').map Line.ofChars := by
  unfold rows
  rw [List.forall₂_map_left_iff]
  simp only [says_iff]
  generalize text.toList.splitOn '\n' = parts
  constructor
  · intro h
    induction h with
    | nil => rfl
    | cons hl _ ih => rw [hl, ih, List.map_cons]
  · rintro rfl
    induction parts with
    | nil => exact .nil
    | cons cs rest ih => exact .cons rfl ih

end NodeFlow.Structure
