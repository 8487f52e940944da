import NodeFlow.Shell.Dialect
import NodeFlow.Text.Upper
import NodeFlow.Text.Utf8

/-! # Octets in shells

    A shell works on octets, whether they are a text or not.  A string in a
    shell has one character below 256 for each octet.  Where it counts or
    compares what it sees, it goes by glyphs: these are the octets themselves,
    or the octets of one character of a text, which depends on the
    encoding. -/

namespace NodeFlow.Shell

/-- What makes a glyph. -/
inductive Encoding where
  /-- Every octet is one. -/
  | single
  /-- The octets of one character of a text are one. -/
  | several
  deriving DecidableEq, Repr, Inhabited

namespace Octets

/-- The octets of a text. -/
def ofText (s : String) : String :=
  if s.toList.all (fun c => c.toNat < 0x80) then s
  else String.ofList ((Text.octets s).map Char.ofNat)

/-- The text of octets. -/
def toText (s : String) : String :=
  if s.toList.all (fun c => c.toNat < 0x80) then s
  else Text.ofOctets (s.toList.map Char.toNat)

/-- The number of octets that a glyph has which begins with an octet; one, if
    no glyph of more octets begins with it. -/
def glyphSize (first : Nat) : Nat :=
  if 0xC2 ≤ first && first < 0xE0 then 2
  else if 0xE0 ≤ first && first < 0xF0 then 3
  else if 0xF0 ≤ first && first < 0xF5 then 4
  else 1

/-- Whether octets are one glyph. -/
def isGlyph (cs : List Char) : Bool :=
  match Text.charsFrom none (cs.map Char.toNat) with
  | [c] => c != Text.replacement || cs.length = 3
  | _ => false

/-- The glyphs of octets.  The first `skip` octets belong to the glyph before
    them. -/
def glyphsFrom : Nat → List Char → List (List Char)
  | _, [] => []
  | skip + 1, _ :: rest => glyphsFrom skip rest
  | 0, c :: rest =>
      let size := glyphSize c.toNat
      if size = 1 then [c] :: glyphsFrom 0 rest
      else
        let whole := (c :: rest).take size
        if whole.length = size && isGlyph whole then
          whole :: glyphsFrom (size - 1) rest
        else [c] :: glyphsFrom 0 rest

/-- The glyphs of octets. -/
def glyphs (e : Encoding) (cs : List Char) : List (List Char) :=
  match e with
  | .single => cs.map (fun c => [c])
  | .several => glyphsFrom 0 cs

/-- The number of glyphs. -/
def size (e : Encoding) (s : String) : Nat :=
  match e with
  | .single => s.length
  | .several => (glyphsFrom 0 s.toList).length

/-- The character of a glyph. -/
def charOf (glyph : List Char) : Char :=
  match glyph with
  | [c] => c
  | cs => (Text.charsFrom none (cs.map Char.toNat)).headD Text.replacement

/-- The octets of a character. -/
def ofChar (c : Char) : List Char := (Text.charOctets c).map Char.ofNat

/-- A glyph in upper case. -/
def upper (glyph : List Char) : List Char :=
  match glyph with
  | [c] => [c.toUpper]
  | cs =>
      match Text.upperChar (charOf cs) with
      | [c] => ofChar c
      | _ => cs

/-- The characters above the basic ones that have one in lower case, with
    that one. -/
def lowerOf? (c : Char) : Option Char :=
  let n := c.toNat
  let near := (List.range 100).map (fun d => n + d)
  (near.find? (fun m =>
    m != n && Text.upperChar (Char.ofNat m) == [c])).map Char.ofNat

/-- A glyph in lower case. -/
def lower (glyph : List Char) : List Char :=
  match glyph with
  | [c] => [c.toLower]
  | cs =>
      match lowerOf? (charOf cs) with
      | some c => ofChar c
      | none => cs

end Octets

/-! ## Characters -/

/-- Whether a character is a blank between words. -/
def isBlank (c : Char) : Bool := c = ' ' || c = '\t'

/-- Whether a character is white space. -/
def isSpace (c : Char) : Bool :=
  c = ' ' || c = '\t' || c = '\n' || c = '\r' || c.toNat = 11 || c.toNat = 12

/-- Whether a name may start with a character. -/
def startsName (c : Char) : Bool := c.isAlpha || c = '_'

/-- Whether a name may go on with a character. -/
def inName (c : Char) : Bool := startsName c || c.isDigit

/-- Whether a text is a name. -/
def isName (s : String) : Bool :=
  match s.toList with
  | [] => false
  | c :: rest => startsName c && rest.all inName

/-- The name at the beginning, and what follows it. -/
def nameAhead (cs : List Char) : String × List Char :=
  match cs with
  | c :: _ =>
      if startsName c then
        (String.ofList (cs.takeWhile inName), cs.dropWhile inName)
      else ("", cs)
  | [] => ("", [])

/-- Whether characters begin with others. -/
def beginsWith : List Char → List Char → Bool
  | [], _ => true
  | _ :: _, [] => false
  | a :: start, c :: cs => a == c && beginsWith start cs

/-- What follows a given beginning. -/
def after? : List Char → List Char → Option (List Char)
  | [], cs => some cs
  | _ :: _, [] => none
  | a :: start, c :: cs => if a = c then after? start cs else none

/-- Whether a text is made of decimal digits. -/
def isNumber (s : String) : Bool := !s.isEmpty && s.toList.all Char.isDigit

/-- The value of decimal digits. -/
def decimalValue (cs : List Char) : Nat :=
  cs.foldl (fun n c => n * 10 + (c.toNat - '0'.toNat)) 0

/-- Whether a character is an octal digit. -/
def isOctal (c : Char) : Bool := '0' ≤ c && c ≤ '7'

/-- The value of octal digits. -/
def octalValue (cs : List Char) : Nat :=
  cs.foldl (fun n c => n * 8 + (c.toNat - '0'.toNat)) 0

/-- The value of a hexadecimal digit. -/
def hexValue? (c : Char) : Option Nat :=
  if c.isDigit then some (c.toNat - '0'.toNat)
  else if 'a' ≤ c && c ≤ 'f' then some (c.toNat - 'a'.toNat + 10)
  else if 'A' ≤ c && c ≤ 'F' then some (c.toNat - 'A'.toNat + 10)
  else none

/-- Whether a character is a hexadecimal digit. -/
def isHex (c : Char) : Bool := (hexValue? c).isSome

/-- The value of hexadecimal digits. -/
def hexValue (cs : List Char) : Nat :=
  cs.foldl (fun n c => n * 16 + (hexValue? c).getD 0) 0

/-- Whether a character is a binary digit. -/
def isBit (c : Char) : Bool := c = '0' || c = '1'

/-- The value of binary digits. -/
def bitValue (cs : List Char) : Nat :=
  cs.foldl (fun n c => n * 2 + (c.toNat - '0'.toNat)) 0

/-- The whole number at the beginning of characters, whose first digits tell
    what its digits are, and what follows. -/
def numberAhead (cs : List Char) : Nat × List Char :=
  let digits (is : Char → Bool) (value : List Char → Nat) (cs : List Char) :
      Nat × List Char :=
    let ds := cs.takeWhile is
    (value ds, cs.drop ds.length)
  match cs with
  | '0' :: 'x' :: c :: rest | '0' :: 'X' :: c :: rest =>
      if isHex c then digits isHex hexValue (c :: rest) else (0, cs.tail)
  | '0' :: 'b' :: c :: rest | '0' :: 'B' :: c :: rest =>
      if isBit c then digits isBit bitValue (c :: rest) else (0, cs.tail)
  | '0' :: rest => digits isOctal octalValue rest
  | cs => digits Char.isDigit decimalValue cs

end NodeFlow.Shell
