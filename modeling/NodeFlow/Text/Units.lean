/-! # Text in units of 16 bits

    A script counts a text in units of 16 bits.  A character beyond the first
    65536 takes two units, a high and a low half; a half may also stand alone,
    and then it is no character. -/

namespace NodeFlow.Text

/-- The units of a character. -/
def charUnits (c : Char) : List Nat :=
  let n := c.toNat
  if n < 0x10000 then [n]
  else
    [0xD800 + (n - 0x10000) / 0x400, 0xDC00 + (n - 0x10000) % 0x400]

/-- The units of a text. -/
def units (s : String) : List Nat := s.toList.flatMap charUnits

/-- Whether a unit is the first half of a character. -/
def isHighHalf (n : Nat) : Bool := 0xD800 ≤ n && n < 0xDC00

/-- Whether a unit is half of a character. -/
def isHalf (n : Nat) : Bool := 0xD800 ≤ n && n < 0xE000

/-- A character, or a half that stands alone. -/
inductive Glyph where
  /-- A character. -/
  | char (c : Char)
  /-- Half of one. -/
  | half (unit : Nat)
  deriving DecidableEq, Repr

/-- The character of two halves. -/
def joinHalves (high low : Nat) : Char :=
  Char.ofNat (0x10000 + (high - 0xD800) * 0x400 + (low - 0xDC00))

/-- The characters and lone halves of a list of units. -/
def glyphs : List Nat → List Glyph
  | [] => []
  | [u] => [if isHalf u then .half u else .char (Char.ofNat u)]
  | u :: v :: rest =>
      if isHighHalf u && isHalf v && !isHighHalf v then
        .char (joinHalves u v) :: glyphs rest
      else if isHalf u then .half u :: glyphs (v :: rest)
      else .char (Char.ofNat u) :: glyphs (v :: rest)

end NodeFlow.Text
