import NodeFlow.Proofs.Decimal
import NodeFlow.Proofs.Table
import NodeFlow.Registry

/-! # New identifiers

    The search for an identifier tries one number after the other, as many as
    there are records, and takes the next one untried.  The numbers that it
    comes by are distinct while there are fewer records than numbers, so the
    one that it takes is not that of a record. -/

namespace NodeFlow.Registry

/-- The number that comes `i` steps after `n`. -/
def numberAfter : Nat → Nat → Nat
  | 0, n => n
  | i + 1, n => numberAfter i (nextNumber n)

theorem nextNumber_lt (n : Nat) : nextNumber n < idLimit := by
  unfold nextNumber
  split
  · assumption
  · decide

/-- Numbers ascend up to the greatest and go on from one. -/
theorem numberAfter_eq (i : Nat) {n : Nat} (hn : n < idLimit)
    (hi : i + 1 < idLimit) :
    numberAfter i n
      = if n + i < idLimit then n + i else n + i + 1 - idLimit := by
  induction i generalizing n with
  | zero => simp [numberAfter, hn]
  | succ i ih =>
      rw [numberAfter, ih (nextNumber_lt n) (by omega)]
      unfold nextNumber
      by_cases h : n + 1 < idLimit
      · rw [if_pos h]
        have hsum : n + 1 + i = n + (i + 1) := by omega
        rw [hsum]
      · -- after the greatest number comes one again
        have hlast : n = idLimit - 1 := by omega
        rw [if_neg h, if_pos (by omega), if_neg (by omega)]
        omega

/-- A short walk comes by no number twice. -/
theorem numberAfter_inj {i j n : Nat} (hn : n < idLimit)
    (hi : i + 1 < idLimit) (hj : j + 1 < idLimit)
    (h : numberAfter i n = numberAfter j n) : i = j := by
  rw [numberAfter_eq i hn hi, numberAfter_eq j hn hj] at h
  split at h <;> split at h <;> omega

/-- A search that ends at a record has come by records only. -/
theorem contains_of_freshId {records : Table String Record} :
    ∀ (steps n : Nat),
      records.contains (freshId records steps n).1 = true →
      ∀ i, i ≤ steps →
        records.contains (toString (numberAfter i n)) = true := by
  intro steps
  induction steps with
  | zero =>
      intro n h i hi
      rw [Nat.le_zero.mp hi]
      exact h
  | succ steps ih =>
      intro n h i hi
      rw [freshId] at h
      by_cases hn : records.contains (toString n) = true
      · rw [if_pos hn] at h
        cases i with
        | zero => exact hn
        | succ i => exact ih (nextNumber n) h i (by omega)
      · rw [if_neg hn] at h
        exact absurd h hn

/-- The identifier that is found is unused. -/
theorem get?_freshId {records : Table String Record} {n : Nat}
    (hn : n < idLimit) (room : records.size + 1 < idLimit) :
    records.get? (freshId records records.size n).1 = none := by
  rw [← Table.contains_eq_false_iff, ← Bool.not_eq_true]
  intro hused
  have htried := contains_of_freshId _ _ hused
  -- one number more than there are records, all of them records
  have hnodup : ((List.range (records.size + 1)).map
      (fun i => toString (numberAfter i n))).Nodup := by
    rw [List.Nodup, List.pairwise_map]
    refine List.nodup_range.imp_of_mem (fun {i j} hi hj hij heq => hij ?_)
    rw [List.mem_range] at hi hj
    exact numberAfter_inj hn (by omega) (by omega) (toString_inj.mp heq)
  have hlength := Table.length_le_size (t := records) hnodup (fun id hid => by
    obtain ⟨i, hi, rfl⟩ := List.mem_map.mp hid
    rw [List.mem_range] at hi
    exact htried i (by omega))
  rw [List.length_map, List.length_range] at hlength
  omega

theorem freshId_snd_lt (records : Table String Record) (steps n : Nat) :
    (freshId records steps n).2 < idLimit := by
  induction steps generalizing n with
  | zero => exact nextNumber_lt n
  | succ steps ih =>
      rw [freshId]
      split
      · exact ih (nextNumber n)
      · exact nextNumber_lt n

end NodeFlow.Registry
