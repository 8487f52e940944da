import NodeFlow.Editor.View
import NodeFlow.Proofs.Backend.Inputs
import NodeFlow.Proofs.Text

/-! # Starters name the inputs

    Line `i` of a starter says under which name code finds input `i`.  It is
    the name under which the backend receives it: `naming` is made from the
    keys and variables that requests hand over (`getElem?_lines_text`). -/

namespace NodeFlow.Starter

/-- How the starter for a backend names the input in a place. -/
def naming (b : Backend) (name : String) (i : Nat) : String :=
  match b with
  | .script => "let " ++ name ++ " = inputs." ++ Engine.inputKey i ++ ";"
  | .interpreter .python =>
      name ++ " = inputs[\"" ++ Engine.inputKey i ++ "\"]"
  | .interpreter .native => "// " ++ Engine.inputKey i ++ " (" ++ name ++ ")"
  | .shell => "# $" ++ inputVariable i ++ " (" ++ name ++ ")"

/-- What follows the inputs in the starter for a backend. -/
def ending (b : Backend) (outputs : List Port) : List String :=
  match b with
  | .script =>
      ["// write your code here",
        "return " ++ outputsLiteral "labelMarkedForOutputs" "" outputs ++ ";"]
  | .interpreter .python =>
      ["# write your code here",
        "return "
          ++ outputsLiteral "\"labelMarkedForOutputs\"" "\"" outputs]
  | .interpreter .native => ["// write your code here"]
  | .shell => ["# write your code here"]

theorem lines_eq (b : Backend) (inputs outputs : List Port) :
    lines (some b) inputs outputs
      = inputs.mapIdx (fun i p => naming b p.name i) ++ ending b outputs := by
  -- the letters before a place are part of the key
  have hscript (i : Nat) (name : String) :
      "let " ++ name ++ " = inputs.input_" ++ toString i ++ ";"
        = naming .script name i := by
    rw [← String.toList_inj]
    simp [naming, Engine.inputKey]
  have hpython (i : Nat) (name : String) :
      name ++ " = inputs[\"input_" ++ toString i ++ "\"]"
        = naming (.interpreter .python) name i := by
    rw [← String.toList_inj]
    simp [naming, Engine.inputKey]
  have hnative (i : Nat) (name : String) :
      "// input_" ++ toString i ++ " (" ++ name ++ ")"
        = naming (.interpreter .native) name i := by
    rw [← String.toList_inj]
    simp [naming, Engine.inputKey]
  have hshell (i : Nat) (name : String) :
      "# $INPUT_" ++ toString i ++ " (" ++ name ++ ")"
        = naming .shell name i := by
    rw [← String.toList_inj]
    simp [naming, inputVariable]
  rcases b with _ | (_ | _) | _ <;>
    simp only [lines, script, python, native, shell, inputLines, ending,
      hscript, hpython, hnative, hshell]

/-! ## Lines of the text -/

theorem not_mem_toDigits (i : Nat) : '\n' ∉ Nat.toDigits 10 i := by
  intro h
  exact absurd (List.all_eq_true.mp (isDigit_toDigits i) _ h) (by decide)

/-- A line ends where its last part does. -/
theorem whole_append {s t : String} (hs : '\n' ∉ s.toList)
    (ht : Text.Whole t.toList) : Text.Whole (s ++ t).toList where
  one := by simp [hs, ht.one]
  ne_nil := by simp [ht.ne_nil]
  kept := by
    rw [String.toList_append, List.getLast?_append_of_ne_nil _ ht.ne_nil]
    exact ht.kept

theorem whole_naming (b : Backend) {name : String}
    (hname : '\n' ∉ name.toList) (i : Nat) :
    Text.Whole (naming b name i).toList := by
  rcases b with _ | (_ | _) | _ <;>
    refine whole_append ?_ ⟨by decide, by decide, by decide⟩ <;>
      simp [Engine.inputKey, inputVariable, hname, not_mem_toDigits]

theorem not_mem_intercalate {c : Char} {sep : List Char}
    {ls : List (List Char)} (hsep : c ∉ sep) (hls : ∀ l ∈ ls, c ∉ l) :
    c ∉ sep.intercalate ls := by
  induction ls with
  | nil => simp
  | cons l rest ih =>
      obtain ⟨hl, hrest⟩ := List.forall_mem_cons.mp hls
      cases rest with
      | nil => rwa [List.intercalate_singleton]
      | cons l' rest =>
          rw [List.intercalate_cons_cons]
          simp [hl, hsep, ih hrest]

theorem whole_outputsLiteral {mark quote : String} {outputs : List Port}
    (hmark : '\n' ∉ mark.toList) (hquote : '\n' ∉ quote.toList)
    (hnames : ∀ p ∈ outputs, '\n' ∉ p.name.toList) :
    Text.Whole (outputsLiteral mark quote outputs).toList := by
  refine whole_append ?_ ⟨by decide, by decide, by decide⟩
  rw [String.toList_append, String.toList_intercalate, List.mem_append,
    not_or]
  refine ⟨by decide, not_mem_intercalate (by decide) (fun l hl => ?_)⟩
  obtain ⟨member, hmember, rfl⟩ := List.mem_map.mp hl
  rcases List.mem_cons.mp hmember with rfl | hmember
  · simp [hmark]
  · obtain ⟨p, hp, rfl⟩ := List.mem_map.mp hmember
    simp [hquote, hnames p hp]

theorem whole_ending (b : Backend) {outputs : List Port}
    (hnames : ∀ p ∈ outputs, '\n' ∉ p.name.toList) :
    ∀ l ∈ ending b outputs, Text.Whole l.toList := by
  have hliteral {mark quote : String} (hmark : '\n' ∉ mark.toList)
      (hquote : '\n' ∉ quote.toList) :
      Text.Whole (outputsLiteral mark quote outputs).toList :=
    whole_outputsLiteral hmark hquote hnames
  rcases b with _ | (_ | _) | _ <;>
    simp only [ending, List.mem_cons, List.not_mem_nil, or_false]
  · rintro l (rfl | rfl)
    · exact ⟨by decide, by decide, by decide⟩
    · refine whole_append ?_ ⟨by decide, by decide, by decide⟩
      rw [String.toList_append, List.mem_append, not_or]
      exact ⟨by decide, (hliteral (by decide) (by decide)).one⟩
  · rintro l (rfl | rfl)
    · exact ⟨by decide, by decide, by decide⟩
    · exact whole_append (by decide) (hliteral (by decide) (by decide))
  · rintro l rfl
    exact ⟨by decide, by decide, by decide⟩
  · rintro l rfl
    exact ⟨by decide, by decide, by decide⟩

/-- The lines of a starter are those it is made of, if no name breaks one. -/
theorem lines_text (b : Backend) {inputs outputs : List Port}
    (hin : ∀ p ∈ inputs, '\n' ∉ p.name.toList)
    (hout : ∀ p ∈ outputs, '\n' ∉ p.name.toList) :
    Text.lines (text (some b) inputs outputs)
      = lines (some b) inputs outputs := by
  have hwhole : ∀ l ∈ (lines (some b) inputs outputs).map String.toList,
      Text.Whole l := by
    rw [lines_eq]
    rintro l hl
    obtain ⟨line, hline, rfl⟩ := List.mem_map.mp hl
    rcases List.mem_append.mp hline with hline | hline
    · obtain ⟨i, hi, rfl⟩ := List.mem_mapIdx.mp hline
      exact whole_naming b (hin _ (List.getElem_mem hi)) i
    · exact whole_ending b hout line hline
  rw [Text.lines, text, String.toList_intercalate,
    show "\n".toList = ['\n'] from rfl, Text.charLines_intercalate hwhole,
    List.map_map]
  simp [Function.comp_def]

/-- Line `i` names input `i`. -/
theorem getElem?_lines_text (b : Backend) {inputs outputs : List Port}
    (hin : ∀ p ∈ inputs, '\n' ∉ p.name.toList)
    (hout : ∀ p ∈ outputs, '\n' ∉ p.name.toList) {i : Nat} {p : Port}
    (hp : inputs[i]? = some p) :
    (Text.lines (text (some b) inputs outputs))[i]?
      = some (naming b p.name i) := by
  have hi : i < inputs.length := (List.getElem?_eq_some_iff.mp hp).1
  rw [lines_text b hin hout, lines_eq, List.getElem?_append_left
    (by rwa [List.length_mapIdx]), List.getElem?_mapIdx, hp, Option.map_some]

end NodeFlow.Starter
