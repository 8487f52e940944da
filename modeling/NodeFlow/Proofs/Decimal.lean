import NodeFlow.Graph.Blob

/-! # Numbers as texts

    A natural number is written in decimal and read back, as handles are from
    the keys of an exported graph. -/

namespace NodeFlow

theorem toList_toString (n : Nat) :
    (toString n).toList = Nat.toDigits 10 n := by
  rw [Nat.toString_eq_repr, Nat.toList_repr]

/-- The digits of a number have its value. -/
theorem Numeral.digitsValue_toDigits (n : Nat) :
    Numeral.digitsValue (Nat.toDigits 10 n) = n := by
  have h : Nat.ofDigitChars 10 (Nat.toDigits 10 n) 0 = n :=
    Nat.ofDigitChars_ten_toDigits
  rw [Nat.ofDigitChars_eq_foldl] at h
  exact h

theorem isDigit_toDigits (n : Nat) :
    (Nat.toDigits 10 n).all Char.isDigit = true :=
  List.all_eq_true.mpr
    (fun _ hc => Nat.isDigit_of_mem_toDigits (by decide) (by decide) hc)

theorem Numeral.digitValue_lt {c : Char} (h : c.isDigit = true) :
    digitValue c < 10 := by
  simp only [Char.isDigit, Bool.and_eq_true, decide_eq_true_eq, ge_iff_le,
    UInt32.le_iff_toNat_le] at h
  have hhigh : c.toNat ≤ 57 := h.2
  unfold digitValue
  omega

theorem Numeral.digitsValue_lt {ds : List Char}
    (h : ∀ c ∈ ds, c.isDigit = true) : digitsValue ds < 10 ^ ds.length := by
  -- by induction, for any value of the digits before
  have hfold : ∀ n, ds.foldl (fun n c => 10 * n + digitValue c) n
      < (n + 1) * 10 ^ ds.length := by
    induction ds with
    | nil => simp
    | cons c rest ih =>
        intro n
        obtain ⟨hc, hrest⟩ := List.forall_mem_cons.mp h
        have hvalue := digitValue_lt hc
        rw [List.foldl_cons, List.length_cons, Nat.pow_succ]
        calc _ < (10 * n + digitValue c + 1) * 10 ^ rest.length :=
              ih hrest _
          _ ≤ (10 * (n + 1)) * 10 ^ rest.length :=
              Nat.mul_le_mul_right _ (by omega)
          _ = (n + 1) * (10 ^ rest.length * 10) := by
              rw [Nat.mul_comm 10 (n + 1), Nat.mul_assoc,
                Nat.mul_comm 10 (10 ^ rest.length)]
  simpa [digitsValue] using hfold 0

/-- Different numbers are written differently. -/
theorem toString_inj {m n : Nat} : toString m = toString n ↔ m = n := by
  refine ⟨fun h => ?_, fun h => h ▸ rfl⟩
  have hdigits : Nat.toDigits 10 m = Nat.toDigits 10 n := by
    rw [← toList_toString, h, toList_toString]
  rw [← Numeral.digitsValue_toDigits m, hdigits, Numeral.digitsValue_toDigits]

/-- The handle that is read is the one that was written. -/
theorem Graph.handleOfText?_toString {h : Handle} (hh : h < handleLimit) :
    handleOfText? (toString h) = some h := by
  have hempty : (Nat.toDigits 10 h).isEmpty = false :=
    List.isEmpty_eq_false_iff.mpr Nat.toDigits_ne_nil
  unfold handleOfText?
  simp only [toList_toString]
  rw [hempty, isDigit_toDigits, Numeral.digitsValue_toDigits]
  simp [hh]

end NodeFlow
