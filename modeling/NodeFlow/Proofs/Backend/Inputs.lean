import NodeFlow.Backend.Request
import NodeFlow.Proofs.Execution.Inputs

/-! # What a backend receives

    A request hands over the inputs of a node, to scripts and interpreters
    under the key of their place, to the shell as environment variables.
    `Request.Hands` says what is handed over by place alone; `hands_ofCode`
    shows that every backend receives the same. -/

namespace NodeFlow

/-- The variable in which the shell finds an input, by its place. -/
def inputVariable (i : Nat) : String := "INPUT_" ++ toString i

/-- How the shell reads a value: a text as it is, all else in compact JSON. -/
def variableText (v : Json) : String := (v.asString?).getD v.compact

theorem inputVariable_inj {i j : Nat}
    (h : inputVariable i = inputVariable j) : i = j :=
  toString_inj.mp ((String.append_right_inj _).mp h)

/-! ## Names of variables -/

theorem upperChar_of_isDigit {c : Char} (hc : c.isDigit = true) :
    Text.upperChar c = [c] := by
  have hbounds : 48 ≤ c.toNat ∧ c.toNat ≤ 57 := by
    simpa [Char.isDigit, UInt32.le_iff_toNat_le] using hc
  have hupper : c.toUpper = c := by
    unfold Char.toUpper
    rw [dif_neg]
    rintro ⟨hlow, -⟩
    have hlow : 97 ≤ c.toNat := by
      simpa [UInt32.le_iff_toNat_le] using hlow
    omega
  unfold Text.upperChar
  simp only
  rw [if_pos (by omega), hupper]

theorem flatMap_upperChar_of_all_isDigit {cs : List Char}
    (hcs : cs.all Char.isDigit = true) : cs.flatMap Text.upperChar = cs := by
  induction cs with
  | nil => rfl
  | cons c rest ih =>
      rw [List.all_cons, Bool.and_eq_true] at hcs
      rw [List.flatMap_cons, upperChar_of_isDigit hcs.1, ih hcs.2,
        List.singleton_append]

/-- A variable has the name of the key in upper case. -/
theorem upper_inputKey (i : Nat) :
    Text.upper (Engine.inputKey i) = inputVariable i := by
  have hdigits : (toString i).toList.flatMap Text.upperChar
      = (toString i).toList := by
    rw [toList_toString]
    exact flatMap_upperChar_of_all_isDigit (isDigit_toDigits i)
  have hletters : "input_".toList.flatMap Text.upperChar
      = "INPUT_".toList := by decide
  rw [← String.toList_inj]
  simp only [Text.upper, Engine.inputKey, inputVariable, String.toList_append,
    List.flatMap_append, String.toList_ofList, hletters, hdigits]

/-! ## Requests -/

namespace Request

/-- The backend that is asked. -/
def backend : Request → Backend
  | .script _ _ => .script
  | .interpreter which _ _ => .interpreter which
  | .shell _ _ _ => .shell

/-- Whether a request hands over the values that reach places, each under its
    key or in its variable, and nothing else. -/
def Hands (reaches : Nat → Json → Prop) : Request → Prop
  | .script _ inputs | .interpreter _ _ inputs =>
      ∀ key value, inputs.get? key = some value ↔
        ∃ i, key = Engine.inputKey i ∧ reaches i value
  | .shell _ _ env =>
      (env.map (·.1)).Nodup
        ∧ ∀ name text, (name, text) ∈ env ↔
          ∃ i value, reaches i value ∧ name = inputVariable i
            ∧ text = variableText value

variable {reaches : Nat → Json → Prop} {inputs : Table String Json}

section Keyed

variable (h : ∀ key value, inputs.get? key = some value ↔
  ∃ i, key = Engine.inputKey i ∧ reaches i value)

include h

theorem mem_inputEnv_iff {name text : String} :
    (name, text) ∈ inputEnv inputs ↔
      ∃ i value, reaches i value ∧ name = inputVariable i
        ∧ text = variableText value := by
  unfold inputEnv
  rw [List.mem_map]
  constructor
  · rintro ⟨⟨key, value⟩, hmem, heq⟩
    obtain ⟨i, rfl, hvalue⟩ :=
      (h key value).mp ((Table.mem_entries_iff inputs key value).mp hmem)
    cases heq
    exact ⟨i, value, hvalue, upper_inputKey i, rfl⟩
  · rintro ⟨i, value, hvalue, rfl, rfl⟩
    have hget := (h _ value).mpr ⟨i, rfl, hvalue⟩
    refine ⟨(Engine.inputKey i, value),
      (Table.mem_entries_iff inputs _ value).mpr hget, ?_⟩
    rw [← upper_inputKey]
    rfl

/-- No two inputs share a variable. -/
theorem nodup_inputEnv : ((inputEnv inputs).map (·.1)).Nodup := by
  have hnames : (inputEnv inputs).map (·.1) = inputs.keys.map Text.upper := by
    unfold inputEnv Table.keys
    rw [List.map_map, List.map_map]
    rfl
  rw [hnames, List.Nodup, List.pairwise_map]
  refine inputs.keys_nodup.imp_of_mem (fun {a b} ha hb hne heq => hne ?_)
  obtain ⟨value, hvalue⟩ := Table.mem_keys_iff.mp ha
  obtain ⟨value', hvalue'⟩ := Table.mem_keys_iff.mp hb
  obtain ⟨i, rfl, -⟩ := (h _ _).mp hvalue
  obtain ⟨j, rfl, -⟩ := (h _ _).mp hvalue'
  rw [upper_inputKey, upper_inputKey] at heq
  rw [inputVariable_inj heq]

/-- Every backend is handed the same inputs. -/
theorem hands_ofCode {s : Surroundings} {b : Backend} {code : String}
    {request : Request} (hreq : ofCode s b code inputs = .ok request) :
    request.backend = b ∧ request.Hands reaches := by
  cases b with
  | script =>
      cases hreq
      exact ⟨rfl, h⟩
  | interpreter which =>
      cases hreq
      exact ⟨rfl, h⟩
  | shell =>
      unfold ofCode ofSnippet at hreq
      simp only at hreq
      split at hreq
      · cases hreq
      · cases hreq
        exact ⟨rfl, nodup_inputEnv h, fun _ _ => mem_inputEnv_iff h⟩

end Keyed

/-- There is a request for every backend, for the shell on a platform with a
    shell. -/
theorem exists_ofCode {s : Surroundings} {b : Backend}
    (hshell : b = .shell →
      (ShellProgram.ofPlatform? s.platform).isSome = true)
    (code : String) (inputs : Table String Json) :
    ∃ request, ofCode s b code inputs = .ok request := by
  cases b with
  | script => exact ⟨_, rfl⟩
  | interpreter which => exact ⟨_, rfl⟩
  | shell =>
      obtain ⟨known, hknown⟩ := Option.isSome_iff_exists.mp (hshell rfl)
      unfold ofCode ofSnippet
      simp only [hknown]
      exact ⟨_, rfl⟩

end Request
end NodeFlow
