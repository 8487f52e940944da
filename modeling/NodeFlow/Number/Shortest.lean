import NodeFlow.Number.Binary64

/-! # The shortest decimal of a binary64 number

    Among the decimals that read back as a given number, one with the fewest
    digits is chosen, and of those the nearest.  For one digit, two, and so
    on up to seventeen, the two neighbours of the number on that decimal grid
    are tested in exact arithmetic: if any point of the grid reads back, so
    does one of the neighbours. -/

namespace NodeFlow.Shortest

/-- How many decimal digits a natural number has; zero has none. -/
def digitCount (n : Nat) : Nat :=
  if n = 0 then 0 else (Nat.toDigits 10 n).length

/-- The exponent of the leading decimal digit of `num / den`. -/
def leadingExponent (num den : Nat) : Int :=
  if den ≤ num then (digitCount (num / den) : Int) - 1
  else -(digitCount ((den + num - 1) / num - 1) : Int)

/-- The interval of fractions that round to a number, over the common
    denominator of the number itself. -/
structure Interval where
  /-- Lower end. -/
  low : Nat
  /-- The number itself. -/
  value : Nat
  /-- Upper end. -/
  high : Nat
  /-- Common denominator. -/
  den : Nat
  /-- Whether the ends themselves round to the number. -/
  closed : Bool

/-- The interval of a nonzero number.  The gap below a power of two is half
    the gap above it; a tie goes to the even significand. -/
def intervalOf (x : Binary64) : Interval :=
  let m := x.significand
  let gapBelow :=
    if m = 2 ^ 52 && x.exponent != Binary64.leastExponent then 1 else 2
  let scale := if 0 ≤ x.exponent then 2 ^ x.exponent.toNat else 1
  let den := if 0 ≤ x.exponent then 4 else 4 * 2 ^ (-x.exponent).toNat
  { low := (4 * m - gapBelow) * scale
    value := 4 * m * scale
    high := (4 * m + 2) * scale
    den := den
    closed := m % 2 == 0 }

/-- Whether `digits * 10 ^ k` lies in the interval. -/
def Interval.holds (i : Interval) (digits : Nat) (k : Int) : Bool :=
  let up := if 0 ≤ k then digits * 10 ^ k.toNat * i.den else digits * i.den
  let factor := if 0 ≤ k then 1 else 10 ^ (-k).toNat
  if i.closed then i.low * factor ≤ up && up ≤ i.high * factor
  else i.low * factor < up && up < i.high * factor

/-- The neighbour of the number on the grid of multiples of `10 ^ k` that
    reads back and is the nearer of two. -/
def gridPoint? (i : Interval) (k : Int) : Option Nat :=
  let num := if 0 ≤ k then i.value else i.value * 10 ^ (-k).toNat
  let den := if 0 ≤ k then i.den * 10 ^ k.toNat else i.den
  let a := num / den
  let r := num % den
  match i.holds a k && a != 0, i.holds (a + 1) k with
  | true, true =>
      if 2 * r < den || (2 * r == den && a % 2 == 0) then some a
      else some (a + 1)
  | true, false => some a
  | false, true => some (a + 1)
  | false, false => none

/-- The first grid with a point that reads back, from the coarsest one:
    `fuel` grids are tried. -/
def search (i : Interval) : Nat → Int → Nat × Int
  | 0, k => (i.value / i.den, k)
  | fuel + 1, k =>
      match gridPoint? i k with
      | some d => (d, k)
      | none => search i fuel (k - 1)

/-- Take the zeros off the end of a digit string. -/
def stripZeros : Nat → Nat → Int → Nat × Int
  | 0, d, k => (d, k)
  | fuel + 1, d, k =>
      if d % 10 == 0 && d != 0 then stripZeros fuel (d / 10) (k + 1)
      else (d, k)

/-- Digits and scale of the shortest decimal of a nonzero magnitude: the
    number reads as `digits * 10 ^ scale`. -/
def decimal (x : Binary64) : Nat × Int :=
  let i := intervalOf x
  let (d, k) := search i 18 (leadingExponent i.value i.den)
  stripZeros 18 d k

/-! ## Layout -/

/-- How a decimal is written out: where the positional form starts and ends,
    counted as the place of the point relative to the first digit, and
    whether a whole number is marked by `.0`. -/
structure Layout where
  /-- The point may stand this many places left of the first digit. -/
  pointLeft : Int
  /-- The point may stand this many places right of the first digit. -/
  pointRight : Int
  /-- Whether a whole number in positional form ends in `.0`. -/
  markWhole : Bool
  /-- Whether the minus sign of zero is written. -/
  signedZero : Bool

/-- The exponent part: a sign is always written. -/
def exponentText (e : Int) : String :=
  (if e < 0 then "e-" else "e+") ++ toString e.natAbs

/-- The digits in scientific form. -/
def scientific (digits : List Char) (point : Int) : String :=
  match digits with
  | [] => "0"
  | d :: rest =>
      String.ofList (if rest.isEmpty then [d] else d :: '.' :: rest)
        ++ exponentText (point - 1)

/-- The digits in positional form, the point `point` places right of the
    first digit. -/
def positional (style : Layout) (digits : List Char) (point : Int) : String :=
  let n : Int := digits.length
  if point ≤ 0 then
    String.ofList ("0.".toList ++ List.replicate (-point).toNat '0' ++ digits)
  else if n ≤ point then
    String.ofList (digits ++ List.replicate (point - n).toNat '0')
      ++ (if style.markWhole then ".0" else "")
  else
    String.ofList (digits.take point.toNat ++ '.' :: digits.drop point.toNat)

/-- The text of a number in a layout. -/
def render (style : Layout) (x : Binary64) : String :=
  let minus :=
    if x.negative && (style.signedZero || !x.isZero) then "-" else ""
  if x.isZero then minus ++ (if style.markWhole then "0.0" else "0")
  else
    let (d, k) := decimal x
    let digits := Nat.toDigits 10 d
    let point := k + digits.length
    minus ++
      (if -style.pointLeft ≤ point && point ≤ style.pointRight then
        positional style digits point
      else scientific digits point)

end NodeFlow.Shortest
