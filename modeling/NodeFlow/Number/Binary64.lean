/-! # Finite binary64 numbers

    A finite binary64 number is a sign and `significand * 2 ^ exponent` with
    `significand < 2 ^ 53` and `-1074 ≤ exponent ≤ 971`.  All arithmetic is
    exact on fractions of naturals and rounds once, to the nearest number of
    that form, a tie to the even significand.  Results beyond the greatest
    number are `none`. -/

namespace NodeFlow

/-- Powers of whole numbers are the built-in ones, whatever is imported. -/
@[default_instance 20000, reducible]
instance (priority := high) builtinPower {α : Type} [NatPow α] : Pow α Nat :=
  instPowNat

/-- A finite number of the binary64 format. -/
structure Binary64 where
  /-- Whether the number carries a minus sign (zero may). -/
  negative : Bool
  /-- The whole-number significand, below `2 ^ 53`. -/
  significand : Nat
  /-- The power of two that scales the significand. -/
  exponent : Int
  deriving DecidableEq, Repr, Inhabited

namespace Binary64

/-- Zero with a sign. -/
def zero (negative : Bool) : Binary64 := ⟨negative, 0, -1074⟩

/-- The least exponent. -/
def leastExponent : Int := -1074

/-- The greatest exponent. -/
def greatestExponent : Int := 971

/-- The quotient to the nearest whole number, a tie to the even one. -/
def roundDiv (num den : Nat) : Nat :=
  let q := num / den
  let r := num % den
  if den < 2 * r || (2 * r == den && q % 2 == 1) then q + 1 else q

/-- The power of two that gives `num / den` a 53-bit significand, or the
    least one. -/
def scaleOf (num den : Nat) : Int :=
  let k : Int := num.log2 - den.log2
  let below : Bool :=
    if 0 ≤ k then num < den * 2 ^ k.toNat else num * 2 ^ (-k).toNat < den
  max leastExponent (if below then k - 53 else k - 52)

/-- The number nearest to `num / den`; `none` when it is too great. -/
def ofRatio (negative : Bool) (num den : Nat) : Option Binary64 :=
  if num = 0 || den = 0 then some (zero negative)
  else
    let e := scaleOf num den
    let m :=
      if 0 ≤ e then roundDiv num (den * 2 ^ e.toNat)
      else roundDiv (num * 2 ^ (-e).toNat) den
    let (m, e) := if m = 2 ^ 53 then (2 ^ 52, e + 1) else (m, e)
    if greatestExponent < e then none else some ⟨negative, m, e⟩

/-- The number nearest to a natural number. -/
def ofNat (n : Nat) : Option Binary64 := ofRatio false n 1

/-- The number nearest to `digits * 10 ^ scale`.  Scales far outside the
    format are decided without computing the power. -/
def ofDecimal (negative : Bool) (digits : Nat) (scale : Int) :
    Option Binary64 :=
  if digits = 0 then some (zero negative)
  else if 400 < scale then none
  else if scale + digits.log2 < -1200 then some (zero negative)
  else if 0 ≤ scale then ofRatio negative (digits * 10 ^ scale.toNat) 1
  else ofRatio negative digits (10 ^ (-scale).toNat)

/-- Numerator and denominator of the magnitude. -/
def ratio (x : Binary64) : Nat × Nat :=
  if 0 ≤ x.exponent then (x.significand * 2 ^ x.exponent.toNat, 1)
  else (x.significand, 2 ^ (-x.exponent).toNat)

/-- Whether the number is a zero of either sign. -/
def isZero (x : Binary64) : Bool := x.significand == 0

/-- The product. -/
def mul (x y : Binary64) : Option Binary64 :=
  let (a, b) := x.ratio
  let (c, d) := y.ratio
  ofRatio (x.negative != y.negative) (a * c) (b * d)

/-- The quotient by a number that is not zero. -/
def div (x y : Binary64) : Option Binary64 :=
  let (a, b) := x.ratio
  let (c, d) := y.ratio
  ofRatio (x.negative != y.negative) (a * d) (b * c)

/-- The sum.  A sum of opposite numbers is positive zero; two negative
    zeros add up to negative zero. -/
def add (x y : Binary64) : Option Binary64 :=
  let (a, b) := x.ratio
  let (c, d) := y.ratio
  let left := a * d
  let right := c * b
  if x.negative == y.negative then ofRatio x.negative (left + right) (b * d)
  else if left = right then some (zero false)
  else if right < left then ofRatio x.negative (left - right) (b * d)
  else ofRatio y.negative (right - left) (b * d)

/-- The number with the other sign. -/
def neg (x : Binary64) : Binary64 := { x with negative := !x.negative }

end Binary64
end NodeFlow
