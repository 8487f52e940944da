import NodeFlow.Proofs.Decimal
import NodeFlow.Proofs.Timestamp.Calendar

/-! # Reading a time that was written

    Every part of the text of a time is read where it was written: numbers
    have as many digits as are asked for, and what stands between them is no
    blank.  A time that there is, is read back (`ofText?_text`), and whatever
    is read is a time that there is (`valid_of_ofText?`). -/

namespace NodeFlow.Timestamp

/-- Whether there is such a time: a second of the calendar, and nanoseconds
    that run on beyond it only in the last second of a minute. -/
structure Valid (t : Timestamp) : Prop where
  /-- Not before the first second. -/
  first : firstSecond ≤ t.seconds
  /-- Not after the last second. -/
  last : t.seconds ≤ lastSecond
  /-- The nanoseconds of one second, or of two. -/
  nanos : t.nanos < 1000000000
    ∨ t.nanos < 2000000000 ∧ t.seconds.fmod 60 = 59

variable {w n : Nat} {rest : List Char} {c : Char}

/-! ## Digits -/

theorem isBlank_of_isDigit (h : c.isDigit = true) : Text.isBlank c = false := by
  simp only [Char.isDigit, Bool.and_eq_true, decide_eq_true_eq, ge_iff_le,
    UInt32.le_iff_toNat_le] at h
  have hlow : 48 ≤ c.toNat := h.1
  have hhigh : c.toNat ≤ 57 := h.2
  simp only [Text.isBlank, Bool.or_eq_false_iff, Bool.and_eq_false_iff,
    decide_eq_false_iff_not, beq_eq_false_iff_ne]
  omega

/-- How a number is written with at least so many digits. -/
structure Digits (w n : Nat) (ds : List Char) : Prop where
  /-- There are only digits. -/
  all : ∀ c ∈ ds, c.isDigit = true
  /-- They have the value. -/
  value : Numeral.digitsValue ds = n
  /-- There is one at least. -/
  ne_nil : ds ≠ []
  /-- A number that needs no more has so many. -/
  length : 0 < w → n < 10 ^ w → ds.length = w

theorem digitsValue_replicate_append (k : Nat) (ds : List Char) :
    Numeral.digitsValue (List.replicate k '0' ++ ds)
      = Numeral.digitsValue ds := by
  induction k with
  | zero => rfl
  | succ k ih =>
      rw [List.replicate_succ, List.cons_append]
      exact ih

/-- A padded number is written with at least so many digits. -/
theorem digits_padded (w n : Nat) : Digits w n (padded w n).toList := by
  have hlist : (padded w n).toList
      = List.replicate (w - (Nat.toDigits 10 n).length) '0'
        ++ Nat.toDigits 10 n := String.toList_ofList
  rw [hlist]
  constructor
  · intro c hc
    rcases List.mem_append.mp hc with hc | hc
    · rw [List.eq_of_mem_replicate hc]
      rfl
    · exact List.all_eq_true.mp (isDigit_toDigits n) c hc
  · rw [digitsValue_replicate_append, Numeral.digitsValue_toDigits]
  · exact List.append_ne_nil_of_right_ne_nil _ Nat.toDigits_ne_nil
  · intro hw hn
    have hle := (Nat.length_toDigits_le_iff (by decide) hw).mpr hn
    rw [List.length_append, List.length_replicate]
    omega

/-- Digits are read up to the first character that is none. -/
theorem Digits.takeWhile {ds : List Char} (h : Digits w n ds)
    (hc : c.isDigit = false) :
    (ds ++ c :: rest).takeWhile Char.isDigit = ds := by
  rw [List.takeWhile_append_of_pos h.all,
    List.takeWhile_cons_of_neg (by simp [hc]), List.append_nil]

theorem Digits.exists_cons {ds : List Char} (h : Digits w n ds) :
    ∃ d tail, ds = d :: tail ∧ d.isDigit = true := by
  obtain ⟨d, tail, rfl⟩ := List.exists_cons_of_ne_nil h.ne_nil
  exact ⟨d, tail, rfl, h.all d (List.mem_cons_self ..)⟩

/-- No blank is skipped before a digit. -/
theorem Digits.skipBlanks {ds : List Char} (h : Digits w n ds) :
    Timestamp.skipBlanks (ds ++ rest) = ds ++ rest := by
  obtain ⟨d, tail, rfl, hd⟩ := h.exists_cons
  exact List.dropWhile_cons_of_neg (by simp [isBlank_of_isDigit hd])

/-- A number of so many digits is read where it was written. -/
theorem readNumber_padded (hw : 0 < w) (hn : n < 10 ^ w) (rest : List Char) :
    readNumber w ((padded w n).toList ++ rest) = some (n, rest) := by
  have h := digits_padded w n
  have htake : (((padded w n).toList ++ rest).take w).takeWhile Char.isDigit
      = (padded w n).toList := by
    rw [List.take_left' (h.length hw hn)]
    have hall : ((padded w n).toList ++ []).takeWhile Char.isDigit
        = (padded w n).toList ++ [].takeWhile Char.isDigit :=
      List.takeWhile_append_of_pos h.all
    rwa [List.append_nil, List.takeWhile_nil, List.append_nil] at hall
  unfold readNumber
  simp only [h.skipBlanks, htake, List.isEmpty_eq_false_iff.mpr h.ne_nil,
    Bool.false_eq_true, if_false, h.value, List.drop_left]

theorem readMark_cons (hc : Text.isBlank c = false) (rest : List Char) :
    readMark c (c :: rest) = some rest := by
  unfold readMark skipBlanks
  rw [List.dropWhile_cons_of_neg (by simp [hc])]
  simp

/-! ## Years and fractions -/

theorem readSignedYear_padded (sign : Int) (w n : Nat) (rest : List Char) :
    readSignedYear sign ((padded w n).toList ++ '-' :: rest)
      = some (sign * n, '-' :: rest) := by
  have h := digits_padded w n
  unfold readSignedYear
  simp only [h.takeWhile (c := '-') rfl, List.isEmpty_eq_false_iff.mpr h.ne_nil,
    Bool.false_eq_true, if_false, h.value, List.drop_left]

/-- Digits that stand where a year is due are four. -/
theorem readYear_padded (hn : n < 10 ^ 4) (rest : List Char) :
    readYear ((padded 4 n).toList ++ rest) = some ((n : Int), rest) := by
  have h := digits_padded 4 n
  have hread := readNumber_padded (by decide) hn rest
  unfold readYear
  rw [h.skipBlanks]
  obtain ⟨d, tail, hcons, hd⟩ := h.exists_cons
  rw [hcons, List.cons_append] at hread ⊢
  split
  · rename_i heq
    cases heq
    cases hd
  · rename_i heq
    cases heq
    cases hd
  · rw [hread]
    rfl

/-- A year is read where it is written, with a sign or without. -/
theorem readYear_yearText (year : Int) (rest : List Char) :
    readYear ((yearText year).toList ++ '-' :: rest)
      = some (year, '-' :: rest) := by
  unfold yearText
  split
  · rename_i h
    simp only [Bool.and_eq_true, decide_eq_true_eq] at h
    rw [readYear_padded (by omega), Int.toNat_of_nonneg h.1]
  · split
    · have hread := readSignedYear_padded (-1) 4 year.natAbs rest
      rw [show -1 * (year.natAbs : Int) = year by omega] at hread
      rw [String.toList_append]
      exact hread
    · have hread := readSignedYear_padded 1 4 year.natAbs rest
      rw [show 1 * (year.natAbs : Int) = year by omega] at hread
      rw [String.toList_append]
      exact hread

/-- Digits after a point are read as that part of a second. -/
theorem readFraction_padded {m : Nat} (hw : 0 < w) (hw9 : w ≤ 9)
    (hm : m < 10 ^ w) (hn : m * 10 ^ (9 - w) = n) (rest : List Char) :
    readFraction (("." ++ padded w m).toList ++ 'Z' :: rest)
      = some (n, 'Z' :: rest) := by
  have h := digits_padded w m
  have hlength := h.length hw hm
  have hkept : (padded w m).toList.take 9 = (padded w m).toList :=
    List.take_of_length_le (by omega)
  rw [String.toList_append]
  show readFraction ('.' :: ((padded w m).toList ++ 'Z' :: rest)) = _
  unfold readFraction
  simp only [h.takeWhile (c := 'Z') rfl,
    List.isEmpty_eq_false_iff.mpr h.ne_nil, Bool.false_eq_true, if_false,
    hkept, h.value, List.drop_left]
  rw [hlength, hn]

/-- A fraction of a second is read where it is written. -/
theorem readFraction_fractionText (hn : n < 1000000000) (rest : List Char) :
    readFraction ((fractionText n).toList ++ 'Z' :: rest)
      = some (n, 'Z' :: rest) := by
  unfold fractionText
  split
  · rename_i h
    rw [h]
    rfl
  · split
    · exact readFraction_padded (by decide) (by decide) (by omega) (by omega)
        rest
    · split
      · exact readFraction_padded (by decide) (by decide) (by omega)
          (by omega) rest
      · exact readFraction_padded (by decide) (by decide) (by omega)
          (by omega) rest

/-! ## The whole text -/

/-- Reading goes on with what was read. -/
theorem bind_of_eq_some {α β : Type} {x : Option α} {a : α} (h : x = some a)
    (f : α → Option β) : (x >>= f) = f a := by
  rw [h]
  rfl

/-- The characters of a written date and time of day. -/
def written (year : Int) (month day hour minute second nanos : Nat) :
    List Char :=
  (yearText year).toList ++ '-'
    :: ((padded 2 month).toList ++ '-'
    :: ((padded 2 day).toList ++ 'T'
    :: ((padded 2 hour).toList ++ ':'
    :: ((padded 2 minute).toList ++ ':'
    :: ((padded 2 second).toList ++ ((fractionText nanos).toList ++ ['Z']))))))

theorem IsDate.day_lt {year : Int} {month day : Nat}
    (h : IsDate year month day) : day < 100 := by
  refine Nat.lt_of_le_of_lt h.day_le ?_
  unfold daysIn
  split <;> split <;> decide

/-- A date and a time of day are read where they were written. -/
theorem ofText?_of_written {s : String} {year : Int}
    {month day hour minute second nanos : Nat}
    (hs : s.toList = written year month day hour minute second nanos)
    (hyear : firstYear ≤ year ∧ year ≤ lastYear)
    (hdate : IsDate year month day) (hhour : hour ≤ 23) (hminute : minute ≤ 59)
    (hsecond : second ≤ 60) (hnanos : nanos < 1000000000) :
    ofText? s =
      let ofDay : Int :=
        hour * 3600 + minute * 60 + (if second = 60 then 59 else second : Nat)
      let seconds := dayNumber year month day * 86400 + ofDay - 0
      if firstSecond ≤ seconds && seconds ≤ lastSecond then
        some ⟨seconds, if second = 60 then nanos + 1000000000 else nanos⟩
      else none := by
  have hdash : ∀ rest, readMark '-' ('-' :: rest) = some rest :=
    readMark_cons rfl
  have hcolon : ∀ rest, readMark ':' (':' :: rest) = some rest :=
    readMark_cons rfl
  have htwo : ∀ n, n < 100 → ∀ rest,
      readNumber 2 ((padded 2 n).toList ++ rest) = some (n, rest) :=
    fun n hn => readNumber_padded (by decide) hn
  have hmonth100 : month < 100 := Nat.lt_of_le_of_lt hdate.month_le (by decide)
  have hoffset : readOffset ['Z'] = some (0, []) := by decide
  have hdateExists : (firstYear ≤ year && year ≤ lastYear && 1 ≤ month
      && month ≤ 12 && 1 ≤ day && day ≤ daysIn year month) = true := by
    simp [hyear, hdate.one_le_month, hdate.month_le, hdate.one_le_day,
      hdate.day_le]
  have htimeExists : (hour ≤ 23 && minute ≤ 59 && second ≤ 60
      && -86400 < (0 : Int) && (0 : Int) < 86400) = true := by
    simp [hhour, hminute, hsecond]
  unfold ofText?
  rw [hs]
  unfold written
  -- the date, up to the mark that is one of three
  rw [bind_of_eq_some (readYear_yearText year _)]
  dsimp only
  rw [bind_of_eq_some (hdash _), bind_of_eq_some (htwo month hmonth100 _),
    bind_of_eq_some (hdash _), bind_of_eq_some (htwo day hdate.day_lt _)]
  dsimp only
  rw [if_pos (by rfl)]
  -- the time of day
  rw [bind_of_eq_some (x := some _) rfl,
    bind_of_eq_some (htwo hour (by omega) _), bind_of_eq_some (hcolon _),
    bind_of_eq_some (htwo minute (by omega) _), bind_of_eq_some (hcolon _),
    bind_of_eq_some (htwo second (by omega) _),
    bind_of_eq_some (readFraction_fractionText hnanos _),
    bind_of_eq_some hoffset]
  dsimp only
  rw [hdateExists, htimeExists]
  rfl

/-- The characters of the text of a time. -/
theorem toList_text (t : Timestamp) :
    let date := dateOf (t.seconds.fdiv 86400)
    let ofDay := (t.seconds.fmod 86400).toNat
    let leap := 1000000000 ≤ t.nanos
    t.text.toList = written date.1 date.2.1 date.2.2 (ofDay / 3600)
      (ofDay / 60 % 60) (ofDay % 60 + (if leap then 1 else 0))
      (if leap then t.nanos - 1000000000 else t.nanos) := by
  unfold text written
  simp [String.toList_append]

/-- A time that there is, is read where it was written. -/
theorem ofText?_text {t : Timestamp} (h : t.Valid) :
    ofText? t.text = some t := by
  obtain ⟨hdate, hnumber⟩ := dateOf_spec (t.seconds.fdiv 86400)
  have hyear := year_mem h.first h.last
  have hfirst := h.first
  have hlast := h.last
  have hnanos := h.nanos
  have htext := toList_text t
  simp (disch := decide) only [Int.fdiv_eq_ediv_of_nonneg,
    Int.fmod_eq_emod_of_nonneg] at *
  -- in a leap second the seconds run up to sixty
  by_cases hleap : 1000000000 ≤ t.nanos
  · simp only [hleap, if_true] at htext
    have hsixty : (t.seconds % 86400).toNat % 60 + 1 = 60 := by omega
    rw [ofText?_of_written htext hyear hdate (by omega) (by omega) (by omega)
      (by omega), hnumber]
    simp only [hsixty, if_true]
    rw [show t.seconds / 86400 * 86400
      + (((t.seconds % 86400).toNat / 3600 : Nat) * 3600
        + ((t.seconds % 86400).toNat / 60 % 60 : Nat) * 60 + (59 : Nat)) - 0
      = t.seconds by omega]
    simp [hfirst, hlast, Nat.sub_add_cancel hleap]
  · simp only [hleap, if_false, Nat.add_zero] at htext
    have hsixty : (t.seconds % 86400).toNat % 60 ≠ 60 := by omega
    rw [ofText?_of_written htext hyear hdate (by omega) (by omega) (by omega)
      (by omega), hnumber]
    simp only [hsixty, if_false]
    rw [show t.seconds / 86400 * 86400
      + (((t.seconds % 86400).toNat / 3600 : Nat) * 3600
        + ((t.seconds % 86400).toNat / 60 % 60 : Nat) * 60
        + ((t.seconds % 86400).toNat % 60 : Nat)) - 0
      = t.seconds by omega]
    simp [hfirst, hlast]

/-! ## What has been read -/

/-- A fraction that has been read is less than a second. -/
theorem readFraction_lt {cs rest : List Char} {nanos : Nat}
    (h : readFraction cs = some (nanos, rest)) : nanos < 1000000000 := by
  unfold readFraction at h
  split at h
  · rename_i digits
    dsimp only at h
    split at h
    · cases h
    · simp only [Option.some.injEq, Prod.mk.injEq] at h
      obtain ⟨rfl, -⟩ := h
      generalize hkept : (digits.takeWhile Char.isDigit).take 9 = kept
      have hdigits : ∀ c ∈ kept, c.isDigit = true := by
        intro c hc
        rw [← hkept] at hc
        exact List.all_eq_true.mp List.all_takeWhile c
          (List.mem_of_mem_take hc)
      have hlt := Numeral.digitsValue_lt hdigits
      have hlength : kept.length ≤ 9 := by
        rw [← hkept]
        exact List.length_take_le _ _
      calc _ < 10 ^ kept.length * 10 ^ (9 - kept.length) :=
            Nat.mul_lt_mul_of_pos_right hlt (Nat.pow_pos (by decide))
        _ = 10 ^ (kept.length + (9 - kept.length)) := (Nat.pow_add ..).symm
        _ = 10 ^ 9 := by rw [Nat.add_sub_cancel' hlength]
  · cases h
    decide

/-- Offsets are whole minutes. -/
theorem readHoursMinutes_minutes {sign o : Int} {cs rest : List Char}
    (h : readHoursMinutes sign cs = some (o, rest)) : ∃ m, o = m * 60 := by
  unfold readHoursMinutes at h
  simp only [Option.bind_eq_bind, Option.bind_eq_some_iff, Prod.exists] at h
  obtain ⟨hours, cs, -, minutes, cs', -, h⟩ := h
  split at h
  · cases h
  · cases h
    refine ⟨sign * (hours * 60 + minutes : Nat), ?_⟩
    rw [Int.mul_assoc]
    congr 1
    omega

theorem readOffset_minutes {cs rest : List Char} {o : Int}
    (h : readOffset cs = some (o, rest)) : ∃ m, o = m * 60 := by
  unfold readOffset at h
  split at h
  · cases h
  · split at h
    · cases h
      exact ⟨0, rfl⟩
    · split at h
      · cases h
        exact ⟨0, rfl⟩
      · split at h
        · exact readHoursMinutes_minutes h
        · split at h
          · exact readHoursMinutes_minutes h
          · cases h

/-- What has been read was read step by step. -/
theorem exists_of_bind_eq_some {α β : Type} {x : Option α} {f : α → Option β}
    {b : β} (h : (x >>= f) = some b) : ∃ a, x = some a ∧ f a = some b :=
  Option.bind_eq_some_iff.mp h

/-- A time that has been read is one that there is. -/
theorem valid_of_ofText? {s : String} {t : Timestamp}
    (h : ofText? s = some t) : t.Valid := by
  unfold ofText? at h
  -- the date, up to the mark that is one of three
  obtain ⟨⟨year, cs⟩, -, h⟩ := exists_of_bind_eq_some h
  obtain ⟨cs, -, h⟩ := exists_of_bind_eq_some h
  obtain ⟨⟨month, cs⟩, -, h⟩ := exists_of_bind_eq_some h
  obtain ⟨cs, -, h⟩ := exists_of_bind_eq_some h
  obtain ⟨⟨day, cs⟩, -, h⟩ := exists_of_bind_eq_some h
  dsimp only at h
  split at h
  case h_2 => cases h
  split at h
  case isFalse => cases h
  obtain ⟨cs, -, h⟩ := exists_of_bind_eq_some h
  -- the time of day
  obtain ⟨⟨hour, cs⟩, -, h⟩ := exists_of_bind_eq_some h
  obtain ⟨cs, -, h⟩ := exists_of_bind_eq_some h
  obtain ⟨⟨minute, cs⟩, -, h⟩ := exists_of_bind_eq_some h
  obtain ⟨cs, -, h⟩ := exists_of_bind_eq_some h
  obtain ⟨⟨second, cs⟩, -, h⟩ := exists_of_bind_eq_some h
  obtain ⟨⟨nanos, cs⟩, hnanos, h⟩ := exists_of_bind_eq_some h
  obtain ⟨⟨offset, cs⟩, hoffset, h⟩ := exists_of_bind_eq_some h
  dsimp only at h
  split at h
  case isFalse => cases h
  have hlt := readFraction_lt hnanos
  obtain ⟨m, rfl⟩ := readOffset_minutes hoffset
  -- a leap second is the last one of its minute
  by_cases hleap : second = 60
  · simp only [hleap, if_true] at h
    split at h
    case isFalse => cases h
    rename_i hrange
    simp only [Bool.and_eq_true, decide_eq_true_eq] at hrange
    cases h
    refine ⟨hrange.1, hrange.2, Or.inr ⟨by dsimp only; omega, ?_⟩⟩
    dsimp only
    rw [Int.fmod_eq_emod_of_nonneg _ (by decide)]
    omega
  · simp only [hleap, if_false] at h
    split at h
    case isFalse => cases h
    rename_i hrange
    simp only [Bool.and_eq_true, decide_eq_true_eq] at hrange
    cases h
    exact ⟨hrange.1, hrange.2, Or.inl hlt⟩

end NodeFlow.Timestamp
