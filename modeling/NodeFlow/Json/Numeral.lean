import NodeFlow.Json.Basic

/-! # Numerals

    A numeral is a number as it is written: sign, whole digits, digits after
    the point and a power of ten.  Its value is a whole number when it has
    neither point nor power and fits 64 bits; otherwise it is a binary64
    number.

    The binary64 value keeps the leading digits that fit an unsigned 64-bit
    number, and scales them by one multiplication or division by a power of
    ten (by several divisions for very small numbers).  Each of these steps
    rounds, so the result may differ from the nearest number in its last
    digit. -/

namespace NodeFlow

/-- A number as it is written. -/
structure Numeral where
  /-- Whether it starts with a minus sign. -/
  negative : Bool
  /-- The digits before the point. -/
  whole : List Char
  /-- The digits after the point, if there is one. -/
  fraction : Option (List Char)
  /-- Sign and digits of the power of ten, if there is one. -/
  power : Option (Bool × List Char)
  deriving DecidableEq, Repr

namespace Numeral

/-- The value of a decimal digit. -/
def digitValue (c : Char) : Nat := c.toNat - 48

/-- The value of a string of decimal digits. -/
def digitsValue (cs : List Char) : Nat :=
  cs.foldl (fun n c => 10 * n + digitValue c) 0

/-- Split the digits off the front. -/
def takeDigits (cs : List Char) : List Char × List Char :=
  (cs.takeWhile Char.isDigit, cs.dropWhile Char.isDigit)

/-- Read the power of ten at the front, if there is one, and nothing else
    after it. -/
def readPower (cs : List Char) : Option (Option (Bool × List Char)) :=
  match cs with
  | [] => some none
  | c :: rest =>
      if c = 'e' || c = 'E' then
        let (minus, rest) :=
          match rest with
          | '+' :: r => (false, r)
          | '-' :: r => (true, r)
          | r => (false, r)
        let (digits, rest) := takeDigits rest
        if digits.isEmpty || !rest.isEmpty then none
        else some (some (minus, digits))
      else none

/-- The numeral that a text spells: a leading zero stands alone, and a point
    or a power has a digit after it. -/
def ofChars? (cs : List Char) : Option Numeral :=
  let (negative, cs) :=
    match cs with
    | '-' :: rest => (true, rest)
    | cs => (false, cs)
  let (whole, rest) := takeDigits cs
  if whole.isEmpty || (whole.length ≠ 1 && whole.head? == some '0') then none
  else
    let (fraction, rest) : Option (List Char) × List Char :=
      match rest with
      | '.' :: r =>
          let (digits, r) := takeDigits r
          (some digits, r)
      | r => (none, r)
    if fraction == some [] then none
    else (readPower rest).map (fun power => ⟨negative, whole, fraction, power⟩)

/-- One more than the greatest unsigned 64-bit number. -/
def wordLimit : Nat := 2 ^ 64

/-- Append digits to a number as long as the result fits 64 bits; what is
    left over comes second. -/
def accumulate (n : Nat) : List Char → Nat × List Char
  | [] => (n, [])
  | c :: rest =>
      let next := 10 * n + digitValue c
      if next < wordLimit then accumulate next rest else (n, c :: rest)

/-- Divide by `10 ^ 308` until the power left is at least `-308`, and then by
    the rest of it. -/
def scaleDown : Nat → Binary64 → Int → Option Binary64
  | 0, x, _ => some (Binary64.zero x.negative)
  | fuel + 1, x, power =>
      if x.isZero then some x
      else if -308 ≤ power then do
        x.div (← Binary64.ofNat (10 ^ (-power).toNat))
      else do
        scaleDown fuel (← x.div (← Binary64.ofNat (10 ^ 308))) (power + 308)

/-- A 64-bit number times a power of ten. -/
def scaled (negative : Bool) (n : Nat) (power : Int) : Option Binary64 := do
  let x ← Binary64.ofRatio negative n 1
  if x.isZero then some x
  else if 0 ≤ power then
    if 308 < power then none
    else x.mul (← Binary64.ofNat (10 ^ power.toNat))
  else scaleDown 4 x power

/-- The binary64 value of a numeral; `none` when it is too great. -/
def real? (n : Numeral) : Option Binary64 :=
  let (digits, dropped) := accumulate 0 n.whole
  let (digits, kept) :=
    match n.fraction with
    | none => (digits, 0)
    | some cs =>
        let (digits, rest) := accumulate digits cs
        (digits, cs.length - rest.length)
  let start : Int := (dropped.length : Int) - kept
  match n.power with
  | none => scaled n.negative digits start
  | some (minus, cs) =>
      let p := digitsValue cs
      if 2 ^ 31 ≤ p then
        if digits = 0 || minus then some (Binary64.zero n.negative) else none
      else scaled n.negative digits (if minus then start - p else start + p)

/-- The value of a numeral; `none` when it is too great. -/
def value? (n : Numeral) : Option Number :=
  let w := digitsValue n.whole
  let isWhole := n.fraction.isNone && n.power.isNone
  if isWhole && !n.negative && w < wordLimit then some (.whole w)
  else if isWhole && n.negative && 0 < w && w ≤ 2 ^ 63 then
    some (.whole (-w))
  else n.real?.map .real

end Numeral
end NodeFlow
