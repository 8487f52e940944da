import NodeFlow.Json.Printer
import NodeFlow.Json.Token
import NodeFlow.Proofs.Decimal

/-! # Printed numbers

    A numeral is one bare word, and is read where it is written
    (`Numeral.ofChars?_chars`).  Whole numbers of 64 bits are read as
    themselves (`Number.kept_whole`).  Whether another number is, is for the
    number to say: reading rounds at each of its steps, and may miss the number
    that was printed in the last digit.

    Every number is written as a numeral, whatever the layout says about the
    place of the point (`Shortest.exists_numeral_render`): there are digits
    where a numeral needs them, and no zero too many.  The search for the
    digits may end without any that read back; then the number is far too small
    for the positional form, and a single zero with a power is written. -/

namespace NodeFlow

open Json (isBare)

namespace Numeral

/-! ## Numerals are bare words -/

theorem isBare_of_isDigit {c : Char} (h : c.isDigit = true) :
    isBare c = true := by
  simp [isBare, Char.isAlphanum, h]

/-- Digits and what comes after them. -/
theorem isBare_of_takeDigits {cs : List Char}
    (h : ∀ c ∈ (takeDigits cs).2, isBare c = true) :
    ∀ c ∈ cs, isBare c = true := by
  intro c hc
  rw [← List.takeWhile_append_dropWhile (p := Char.isDigit) (l := cs)] at hc
  rcases List.mem_append.mp hc with hc | hc
  · exact isBare_of_isDigit (List.all_eq_true.mp List.all_takeWhile c hc)
  · exact h c hc

/-- A power of ten has only bare characters. -/
theorem isBare_of_readPower {cs : List Char} {power : Option (Bool × List Char)}
    (h : readPower cs = some power) : ∀ c ∈ cs, isBare c = true := by
  unfold readPower at h
  split at h
  · simp
  · rename_i c rest
    split at h
    · rename_i hc
      have hfirst : isBare c = true := by
        simp only [Bool.or_eq_true, decide_eq_true_eq] at hc
        rcases hc with rfl | rfl <;> decide
      -- after the sign there are only digits
      have hdigits : ∀ {l : List Char} {minus : Bool},
          (if (takeDigits l).1.isEmpty || !(takeDigits l).2.isEmpty then none
            else some (some (minus, (takeDigits l).1))) = some power →
          ∀ c ∈ l, isBare c = true := by
        intro l minus h
        split at h
        · cases h
        · rename_i hends
          simp only [Bool.or_eq_true, Bool.not_eq_true', not_or,
            Bool.not_eq_false, List.isEmpty_iff] at hends
          exact isBare_of_takeDigits (by simp [hends.2])
      refine List.forall_mem_cons.mpr ⟨hfirst, ?_⟩
      dsimp only at h
      split at h
      · exact List.forall_mem_cons.mpr ⟨by decide, hdigits h⟩
      · exact List.forall_mem_cons.mpr ⟨by decide, hdigits h⟩
      · exact hdigits h
    · cases h

/-- A numeral is one bare word. -/
theorem isBare_of_ofChars? {cs : List Char} {n : Numeral}
    (h : ofChars? cs = some n) : ∀ c ∈ cs, isBare c = true := by
  -- after the digits there may be a point and more digits, and then a power
  obtain ⟨l, rest, power, hsign, hpoint, hpower⟩ :
      ∃ l rest power, (cs = l ∨ cs = '-' :: l)
        ∧ ((takeDigits l).2 = rest
          ∨ ∃ r, (takeDigits l).2 = '.' :: r ∧ (takeDigits r).2 = rest)
        ∧ readPower rest = some power := by
    unfold ofChars? at h
    dsimp only at h
    split at h
    all_goals
      simp only [Option.ite_none_left_eq_some, Option.map_eq_some_iff] at h
      obtain ⟨-, -, power, hpower, -⟩ := h
      split at hpower
    · exact ⟨_, _, power, .inr rfl, .inr ⟨_, ‹_›, rfl⟩, hpower⟩
    · exact ⟨_, _, power, .inr rfl, .inl rfl, hpower⟩
    · exact ⟨_, _, power, .inl rfl, .inr ⟨_, ‹_›, rfl⟩, hpower⟩
    · exact ⟨_, _, power, .inl rfl, .inl rfl, hpower⟩
  have hrest := isBare_of_readPower hpower
  have hdigits : ∀ c ∈ l, isBare c = true := by
    refine isBare_of_takeDigits ?_
    rcases hpoint with rfl | ⟨r, heq, rfl⟩
    · exact hrest
    · rw [heq]
      exact List.forall_mem_cons.mpr ⟨by decide, isBare_of_takeDigits hrest⟩
  rcases hsign with rfl | rfl
  · exact hdigits
  · exact List.forall_mem_cons.mpr ⟨by decide, hdigits⟩

/-! ## Numerals that are written -/

/-- The characters of a point and the digits after it. -/
def fractionChars : Option (List Char) → List Char
  | none => []
  | some ds => '.' :: ds

/-- The characters of a power of ten, with its sign. -/
def powerChars : Option (Bool × List Char) → List Char
  | none => []
  | some (minus, ds) => 'e' :: (if minus then '-' else '+') :: ds

/-- The characters of a numeral. -/
def chars (n : Numeral) : List Char :=
  (if n.negative then ['-'] else [])
    ++ (n.whole ++ (fractionChars n.fraction ++ powerChars n.power))

/-- Whether a numeral has the digits that it needs, and no zero too many. -/
structure Sound (n : Numeral) : Prop where
  /-- There is a digit before the point. -/
  nonempty : n.whole ≠ []
  /-- Before the point there are digits. -/
  whole : ∀ c ∈ n.whole, c.isDigit = true
  /-- A leading zero stands alone. -/
  first : (n.whole.length ≠ 1 && n.whole.head? == some '0') = false
  /-- After the point there are digits. -/
  fraction : ∀ ds, n.fraction = some ds → ds ≠ [] ∧ ∀ c ∈ ds, c.isDigit = true
  /-- The power is made of digits. -/
  power : ∀ minus ds, n.power = some (minus, ds) →
    ds ≠ [] ∧ ∀ c ∈ ds, c.isDigit = true

/-- Digits are split off where they end. -/
theorem takeDigits_append {ds rest : List Char}
    (h : ∀ c ∈ ds, c.isDigit = true)
    (hrest : ∀ c, rest.head? = some c → c.isDigit = false) :
    takeDigits (ds ++ rest) = (ds, rest) := by
  have hstop : rest.takeWhile Char.isDigit = []
      ∧ rest.dropWhile Char.isDigit = rest := by
    cases rest with
    | nil => exact ⟨rfl, rfl⟩
    | cons c rest => simp [hrest c rfl]
  rw [takeDigits, List.takeWhile_append_of_pos h,
    List.dropWhile_append_of_pos h, hstop.1, hstop.2, List.append_nil]

theorem takeDigits_of_all {ds : List Char} (h : ∀ c ∈ ds, c.isDigit = true) :
    takeDigits ds = (ds, []) := by
  have happend : takeDigits (ds ++ []) = (ds, []) :=
    takeDigits_append h (by rintro _ ⟨⟩)
  rwa [List.append_nil] at happend

/-- A power of ten is read where it is written. -/
theorem readPower_powerChars {power : Option (Bool × List Char)}
    (h : ∀ minus ds, power = some (minus, ds) →
      ds ≠ [] ∧ ∀ c ∈ ds, c.isDigit = true) :
    readPower (powerChars power) = some power := by
  match power with
  | none => rfl
  | some (minus, ds) =>
      obtain ⟨hne, hdigits⟩ := h minus ds rfl
      have hempty := List.isEmpty_eq_false_iff.mpr hne
      cases minus <;>
        simp [powerChars, readPower, takeDigits_of_all hdigits, hempty]

/-- A numeral is read where it is written. -/
theorem ofChars?_chars {n : Numeral} (h : n.Sound) :
    ofChars? n.chars = some n := by
  obtain ⟨negative, whole, fraction, power⟩ := n
  obtain ⟨hne, hwhole, hfirst, hfraction, hpower⟩ := h
  dsimp only at hne hwhole hfirst hfraction hpower
  have hend : ∀ c, (powerChars power).head? = some c → c.isDigit = false := by
    cases power with
    | none => rintro _ ⟨⟩
    | some _ => rintro _ ⟨⟩; decide
  have hpast : ∀ c, (fractionChars fraction ++ powerChars power).head?
      = some c → c.isDigit = false := by
    cases fraction with
    | none => exact hend
    | some _ => rintro _ ⟨⟩; decide
  have htake := takeDigits_append hwhole hpast
  have hempty := List.isEmpty_eq_false_iff.mpr hne
  have hsign : ∀ rest rest', whole ++ rest ≠ '-' :: rest' := by
    obtain ⟨c, cs, rfl⟩ := List.exists_cons_of_ne_nil hne
    rintro rest rest' ⟨⟩
    exact absurd (hwhole '-' (List.mem_cons_self ..)) (by decide)
  have hdigits : (fraction == some []) = false := by
    rw [beq_eq_false_iff_ne]
    exact fun heq => (hfraction [] heq).1 rfl
  -- once point and power are told apart
  have hlast : ∀ m : Option (List Char) × List Char,
      m = (fraction, powerChars power) →
      (if (m.1 == some []) = true then none
        else (readPower m.2).map
          (fun p => (⟨negative, whole, m.1, p⟩ : Numeral)))
        = some ⟨negative, whole, fraction, power⟩ := by
    rintro _ rfl
    simp only [hdigits, Bool.false_eq_true, if_false,
      readPower_powerChars hpower, Option.map_some]
  unfold ofChars? chars
  cases negative
  case' false =>
    simp only [Bool.false_eq_true, if_false, List.nil_append]
    split
    · exact absurd ‹_› (hsign _ _)
  case' true => simp only [if_true, List.cons_append, List.nil_append]
  all_goals
    simp only [htake, hempty, hfirst, Bool.or_self, Bool.false_eq_true,
      if_false]
    refine hlast _ ?_
    cases fraction with
    | none => cases power <;> rfl
    | some ds =>
        simp only [fractionChars, List.cons_append,
          takeDigits_append (hfraction ds rfl).2 hend]

/-! ## Whole numbers -/

/-- A number of more than one digit does not start with a zero. -/
theorem toDigits_starts (n : Nat) :
    ((Nat.toDigits 10 n).length ≠ 1
      && (Nat.toDigits 10 n).head? == some '0') = false := by
  rw [Bool.eq_false_iff]
  intro h
  simp only [Bool.and_eq_true, decide_eq_true_eq, beq_iff_eq] at h
  obtain ⟨hlength, hhead⟩ := h
  have hvalue := digitsValue_toDigits n
  have hdigits := List.all_eq_true.mp (isDigit_toDigits n)
  have hle := fun k hk => Nat.length_toDigits_le_iff (n := n) (b := 10)
    (k := k) (by decide) hk
  generalize Nat.toDigits 10 n = ds at *
  cases ds with
  | nil => cases hhead
  | cons c rest =>
      cases hhead
      have hpos : 0 < rest.length := by
        cases rest with
        | nil => exact absurd rfl hlength
        | cons _ _ => exact Nat.succ_pos _
      -- without the zero there are fewer digits for the same number
      have hlt := digitsValue_lt (List.forall_mem_cons.mp hdigits).2
      have hsame : digitsValue ('0' :: rest) = digitsValue rest := rfl
      rw [← hsame, hvalue] at hlt
      have hshort := (hle rest.length hpos).mpr hlt
      rw [List.length_cons] at hshort
      omega

/-- The digits of a number are a sound numeral. -/
theorem sound_toDigits (negative : Bool) (n : Nat) :
    Sound ⟨negative, Nat.toDigits 10 n, none, none⟩ where
  nonempty := Nat.toDigits_ne_nil
  whole := List.all_eq_true.mp (isDigit_toDigits n)
  first := toDigits_starts n
  fraction := by rintro _ ⟨⟩
  power := by rintro _ _ ⟨⟩

/-- The digits of a number are read as they are, with a sign or without. -/
theorem ofChars?_toDigits (n : Nat) :
    ofChars? (Nat.toDigits 10 n)
        = some ⟨false, Nat.toDigits 10 n, none, none⟩
      ∧ ofChars? ('-' :: Nat.toDigits 10 n)
        = some ⟨true, Nat.toDigits 10 n, none, none⟩ := by
  have h : ∀ negative, ofChars? (chars _) = _ := fun negative =>
    ofChars?_chars (sound_toDigits negative n)
  simp only [chars, fractionChars, powerChars, List.append_nil] at h
  exact ⟨h false, h true⟩

end Numeral

/-! ## Numbers -/

/-- Whether a number is read where it is printed. -/
def Number.Kept (n : Number) : Prop :=
  (Numeral.ofChars? n.text.toList).bind Numeral.value? = some n

/-- Whole numbers of 64 bits, with a sign or without, are read where they are
    printed. -/
theorem Number.kept_whole {n : Int} (h : -2 ^ 63 ≤ n ∧ n < 2 ^ 64) :
    (Number.whole n).Kept := by
  unfold Kept text
  rcases Int.eq_nat_or_neg n with ⟨m, rfl | rfl⟩
  · have hchars : (toString (m : Int)).toList = Nat.toDigits 10 m :=
      toList_toString m
    have hlt : m < Numeral.wordLimit := by
      have := h.2
      simp only [Numeral.wordLimit]
      omega
    rw [hchars, (Numeral.ofChars?_toDigits m).1]
    simp [Numeral.value?, Numeral.digitsValue_toDigits, hlt]
  · rcases Nat.eq_zero_or_pos m with rfl | hpos
    · decide
    -- a sign stands before the digits
    have hchars : (toString (-(m : Int))).toList
        = '-' :: Nat.toDigits 10 m := by
      obtain ⟨k, rfl⟩ :=
        Nat.exists_eq_succ_of_ne_zero (Nat.pos_iff_ne_zero.mp hpos)
      have hneg : toString (-((k.succ : Nat) : Int)) = "-" ++ toString k.succ :=
        rfl
      rw [hneg, String.toList_append, toList_toString]
      rfl
    have hle : m ≤ 2 ^ 63 := by
      have := h.1
      omega
    rw [hchars, (Numeral.ofChars?_toDigits m).2]
    simp only [Option.bind_some, Numeral.value?, Numeral.digitsValue_toDigits]
    simpa [hpos] using hle

/-! ## Shortest decimals -/

/-- A numeral may have a minus sign. -/
theorem Numeral.Sound.signed {n : Numeral} (h : n.Sound)
    (hn : n.negative = false) :
    (⟨true, n.whole, n.fraction, n.power⟩ : Numeral).Sound
      ∧ Numeral.chars ⟨true, n.whole, n.fraction, n.power⟩ = '-' :: n.chars :=
  ⟨⟨h.nonempty, h.whole, h.first, h.fraction, h.power⟩,
    by simp [Numeral.chars, hn]⟩

namespace Shortest

theorem ne_zero_of_gridPoint? {i : Interval} {k : Int} {d : Nat}
    (h : gridPoint? i k = some d) : d ≠ 0 := by
  unfold gridPoint? at h
  dsimp only at h
  generalize (if 0 ≤ k then i.value else i.value * 10 ^ (-k).toNat) = num at h
  generalize (if 0 ≤ k then i.den * 10 ^ k.toNat else i.den) = den at h
  split at h
  · rename_i hlow _
    simp only [Bool.and_eq_true, bne_iff_ne] at hlow
    split at h
    · cases h
      exact hlow.2
    · cases h
      exact Nat.succ_ne_zero _
  · rename_i hlow _
    simp only [Bool.and_eq_true, bne_iff_ne] at hlow
    cases h
    exact hlow.2
  · cases h
    exact Nat.succ_ne_zero _
  · cases h

/-- What is found has digits, or nothing was found on any grid. -/
theorem search_digits (i : Interval) (fuel : Nat) (k : Int) :
    (search i fuel k).1 ≠ 0
      ∨ search i fuel k = (i.value / i.den, k - fuel) := by
  induction fuel generalizing k with
  | zero => exact .inr (by simp [search])
  | succ fuel ih =>
      rw [search]
      split
      · exact .inl (ne_zero_of_gridPoint? ‹_›)
      · refine (ih (k - 1)).imp_right (fun h => h.trans ?_)
        rw [show k - 1 - (fuel : Int) = k - (fuel + 1 : Nat) by omega]

/-- What is left without the zeros at its end is not zero. -/
theorem stripZeros_ne_zero {fuel d : Nat} {k : Int} (h : d ≠ 0) :
    (stripZeros fuel d k).1 ≠ 0 := by
  induction fuel generalizing d k with
  | zero => exact h
  | succ fuel ih =>
      rw [stripZeros]
      split
      · rename_i hzero
        simp only [Bool.and_eq_true, beq_iff_eq] at hzero
        exact ih (by omega)
      · exact h

/-- A number below one starts behind the point. -/
theorem leadingExponent_nonpos {num den : Nat} (h : num < den) :
    leadingExponent num den ≤ 0 := by
  rw [leadingExponent, if_neg (by omega)]
  omega

theorem den_pos (x : Binary64) : 0 < (intervalOf x).den := by
  unfold intervalOf
  dsimp only
  split
  · exact Nat.succ_pos _
  · exact Nat.mul_pos (Nat.succ_pos _) (Nat.pow_pos (Nat.succ_pos _))

/-- The digits of a number are no zero, unless the number is far behind the
    point. -/
theorem decimal_digits (x : Binary64) :
    (decimal x).1 ≠ 0 ∨ (decimal x).1 = 0 ∧ (decimal x).2 ≤ -18 := by
  unfold decimal
  dsimp only
  rcases search_digits (intervalOf x) 18
    (leadingExponent (intervalOf x).value (intervalOf x).den) with h | h
  · exact .inl (stripZeros_ne_zero h)
  · rw [h]
    rcases Nat.eq_zero_or_pos ((intervalOf x).value / (intervalOf x).den)
      with hzero | hpos
    · have hlt := (Nat.div_eq_zero_iff_lt (den_pos x)).mp hzero
      have hexp := leadingExponent_nonpos hlt
      have hstrip : ∀ k, stripZeros 18 0 k = (0, k) := fun k => rfl
      rw [hzero, hstrip]
      exact .inr ⟨rfl, by dsimp only; omega⟩
    · exact .inl (stripZeros_ne_zero (Nat.pos_iff_ne_zero.mp hpos))

theorem head?_toDigits_ne {d : Nat} (h : d ≠ 0) :
    (Nat.toDigits 10 d).head? ≠ some '0' := by
  intro hhead
  have hstarts := Numeral.toDigits_starts d
  rw [hhead] at hstarts
  simp only [beq_self_eq_true, Bool.and_true, decide_eq_false_iff_not]
    at hstarts
  obtain ⟨c, hc⟩ := List.length_eq_one_iff.mp (Decidable.not_not.mp hstarts)
  have hvalue := Numeral.digitsValue_toDigits d
  rw [hc] at hhead hvalue
  cases hhead
  exact h hvalue.symm

theorem toList_exponentText (e : Int) :
    (exponentText e).toList
      = Numeral.powerChars
        (some (decide (e < 0), Nat.toDigits 10 e.natAbs)) := by
  rw [exponentText, String.toList_append, toList_toString]
  by_cases h : e < 0 <;> simp [h, Numeral.powerChars]

variable {ds : List Char}

/-- Digits in scientific form are a numeral. -/
theorem exists_numeral_scientific (hne : ds ≠ [])
    (hds : ∀ c ∈ ds, c.isDigit = true) (point : Int) :
    ∃ n : Numeral, n.negative = false ∧ n.Sound
      ∧ n.chars = (scientific ds point).toList := by
  obtain ⟨d, rest, rfl⟩ := List.exists_cons_of_ne_nil hne
  obtain ⟨hd, hrest⟩ := List.forall_mem_cons.mp hds
  have hpower : ∀ minus qs, some (decide (point - 1 < 0),
      Nat.toDigits 10 (point - 1).natAbs) = some (minus, qs) →
      qs ≠ [] ∧ ∀ c ∈ qs, c.isDigit = true := by
    rintro _ _ ⟨⟩
    exact ⟨Nat.toDigits_ne_nil, List.all_eq_true.mp (isDigit_toDigits _)⟩
  refine ⟨⟨false, [d], if rest.isEmpty then none else some rest,
    some (decide (point - 1 < 0), Nat.toDigits 10 (point - 1).natAbs)⟩, rfl,
    ⟨List.cons_ne_nil _ _, by simpa using hd, rfl, ?_, hpower⟩, ?_⟩
  · intro fs hfs
    cases rest with
    | nil => cases hfs
    | cons c cs =>
        cases hfs
        exact ⟨List.cons_ne_nil _ _, hrest⟩
  · rw [scientific, String.toList_append, String.toList_ofList,
      toList_exponentText]
    cases rest <;> rfl

/-- Digits in positional form are a numeral. -/
theorem exists_numeral_positional (style : Layout) (hne : ds ≠ [])
    (hds : ∀ c ∈ ds, c.isDigit = true) (hfirst : ds.head? ≠ some '0')
    (point : Int) :
    ∃ n : Numeral, n.negative = false ∧ n.Sound
      ∧ n.chars = (positional style ds point).toList := by
  have hzeros : ∀ k, ∀ c ∈ List.replicate k '0', c.isDigit = true := by
    intro k c hc
    rw [List.eq_of_mem_replicate hc]
    rfl
  have hnopower : ∀ minus qs, (none : Option (Bool × List Char))
      = some (minus, qs) → qs ≠ [] ∧ ∀ c ∈ qs, c.isDigit = true := by
    rintro _ _ ⟨⟩
  have hstart : ∀ ws : List Char, ws.head? = ds.head? →
      (ws.length ≠ 1 && ws.head? == some '0') = false := by
    intro ws hws
    rw [hws]
    simp [hfirst]
  unfold positional
  dsimp only
  split
  · -- only zeros before the digits
    refine ⟨⟨false, ['0'],
      some (List.replicate (-point).toNat '0' ++ ds), none⟩, rfl,
      ⟨List.cons_ne_nil _ _, by simp, rfl, ?_, hnopower⟩, ?_⟩
    · rintro _ ⟨⟩
      exact ⟨by simp [hne],
        List.forall_mem_append.mpr ⟨hzeros _, hds⟩⟩
    · simp [Numeral.chars, Numeral.fractionChars, Numeral.powerChars]
  split
  · -- zeros after the digits, and the mark of a whole number
    refine ⟨⟨false, ds ++ List.replicate (point - ds.length).toNat '0',
      if style.markWhole then some ['0'] else none, none⟩, rfl,
      ⟨by simp [hne], List.forall_mem_append.mpr ⟨hds, hzeros _⟩,
        hstart _ ?_, ?_, hnopower⟩, ?_⟩
    · obtain ⟨c, cs, rfl⟩ := List.exists_cons_of_ne_nil hne
      rfl
    · intro fs hfs
      split at hfs
      · cases hfs
        exact ⟨List.cons_ne_nil _ _, by simp⟩
      · cases hfs
    · cases style.markWhole <;>
        simp [Numeral.chars, Numeral.fractionChars, Numeral.powerChars]
  · -- the point among the digits
    rename_i hpos hlt
    obtain ⟨k, rfl⟩ := Int.eq_ofNat_of_zero_le (a := point) (by omega)
    have hk : 0 < k ∧ k < ds.length := by omega
    refine ⟨⟨false, ds.take k, some (ds.drop k), none⟩, rfl,
      ⟨?_, fun c hc => hds c (List.mem_of_mem_take hc), hstart _ ?_, ?_,
        hnopower⟩, ?_⟩
    · rw [← List.length_pos_iff, List.length_take]
      omega
    · rw [List.head?_take, if_neg (by omega)]
    · rintro _ ⟨⟩
      refine ⟨?_, fun c hc => hds c (List.mem_of_mem_drop hc)⟩
      rw [← List.length_pos_iff, List.length_drop]
      omega
    · simp [Numeral.chars, Numeral.fractionChars, Numeral.powerChars]

/-- The text of a number is a numeral, in every layout that does not put the
    point too far left. -/
theorem exists_numeral_render (style : Layout) (hstyle : style.pointLeft < 17)
    (x : Binary64) :
    ∃ n : Numeral, n.Sound ∧ n.chars = (render style x).toList := by
  have hsign : ∀ {b : Bool} {s : String}, (∃ n : Numeral, n.negative = false
      ∧ n.Sound ∧ n.chars = s.toList) →
      ∃ n : Numeral, n.Sound
        ∧ n.chars = ((if b then "-" else "") ++ s).toList := by
    rintro b s ⟨n, hn, hsound, hchars⟩
    cases b
    · exact ⟨n, hsound, by simpa using hchars⟩
    · exact ⟨_, (hsound.signed hn).1, by simp [(hsound.signed hn).2, hchars]⟩
  unfold render
  dsimp only
  split
  · refine hsign ?_
    cases style.markWhole
    · exact ⟨⟨false, ['0'], none, none⟩, rfl,
        ⟨by simp, by simp, rfl, by simp, by simp⟩, rfl⟩
    · exact ⟨⟨false, ['0'], some ['0'], none⟩, rfl,
        ⟨by simp, by simp, rfl, by simp, by simp⟩, rfl⟩
  · have hdigits := List.all_eq_true.mp (isDigit_toDigits (decimal x).1)
    refine hsign ?_
    rcases decimal_digits x with h | ⟨h, hfar⟩
    · split
      · exact exists_numeral_positional style Nat.toDigits_ne_nil hdigits
          (head?_toDigits_ne h) _
      · exact exists_numeral_scientific Nat.toDigits_ne_nil hdigits _
    · -- a single zero is never written in positional form
      rw [if_neg]
      · exact exists_numeral_scientific Nat.toDigits_ne_nil hdigits _
      · have hlength : (Nat.toDigits 10 (decimal x).1).length = 1 := by
          rw [h]
          rfl
        simp only [Bool.and_eq_true, decide_eq_true_eq, not_and, hlength]
        omega

end Shortest
end NodeFlow
