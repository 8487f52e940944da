/-! # Octets

    A text travels as octets in UTF-8.  Octets that are no text are read
    nevertheless: each longest beginning of a character that breaks off, and
    each octet that begins none, becomes one replacement character.

    The reader takes octets one by one; between characters it owes nothing,
    and inside one it knows how many octets are still due and which come next. -/

namespace NodeFlow.Text

/-- The octets of a character. -/
def charOctets (c : Char) : List Nat :=
  let n := c.toNat
  if n < 0x80 then [n]
  else if n < 0x800 then [0xC0 + n / 64, 0x80 + n % 64]
  else if n < 0x10000 then
    [0xE0 + n / 4096, 0x80 + n / 64 % 64, 0x80 + n % 64]
  else
    [0xF0 + n / 262144, 0x80 + n / 4096 % 64, 0x80 + n / 64 % 64,
      0x80 + n % 64]

/-- The octets of a text. -/
def octets (s : String) : List Nat := s.toList.flatMap charOctets

/-- The character that stands for octets that are no text. -/
def replacement : Char := Char.ofNat 0xFFFD

/-- Where the reader is inside a character. -/
structure Due where
  /-- How many octets are still due. -/
  count : Nat
  /-- The least octet that may come next. -/
  low : Nat
  /-- The greatest octet that may come next. -/
  high : Nat
  /-- What the octets so far say. -/
  bits : Nat
  deriving DecidableEq, Repr

/-- Begin with an octet: the characters that it completes, and what is due
    after it. -/
def firstOctet (b : Nat) : List Char × Option Due :=
  if b < 0x80 then ([Char.ofNat b], none)
  else if 0xC2 ≤ b && b < 0xE0 then ([], some ⟨1, 0x80, 0xBF, b - 0xC0⟩)
  else if b = 0xE0 then ([], some ⟨2, 0xA0, 0xBF, 0⟩)
  else if b = 0xED then ([], some ⟨2, 0x80, 0x9F, 0xD⟩)
  else if 0xE0 ≤ b && b < 0xF0 then ([], some ⟨2, 0x80, 0xBF, b - 0xE0⟩)
  else if b = 0xF0 then ([], some ⟨3, 0x90, 0xBF, 0⟩)
  else if b = 0xF4 then ([], some ⟨3, 0x80, 0x8F, 4⟩)
  else if 0xF0 ≤ b && b < 0xF4 then ([], some ⟨3, 0x80, 0xBF, b - 0xF0⟩)
  else ([replacement], none)

/-- Go on with an octet. -/
def nextOctet (due : Option Due) (b : Nat) : List Char × Option Due :=
  match due with
  | none => firstOctet b
  | some d =>
      if d.low ≤ b && b ≤ d.high then
        let bits := d.bits * 64 + (b - 0x80)
        if d.count = 1 then ([Char.ofNat bits], none)
        else ([], some ⟨d.count - 1, 0x80, 0xBF, bits⟩)
      else
        let (cs, due) := firstOctet b
        (replacement :: cs, due)

/-- The characters of octets, from somewhere inside a character. -/
def charsFrom (due : Option Due) : List Nat → List Char
  | [] => if due.isSome then [replacement] else []
  | b :: rest =>
      let (cs, due) := nextOctet due b
      cs ++ charsFrom due rest

/-- The text of octets. -/
def ofOctets (bs : List Nat) : String := String.ofList (charsFrom none bs)

end NodeFlow.Text
