import NodeFlow.Json.Basic
import NodeFlow.Json.Numeral
import NodeFlow.Number.Shortest
import NodeFlow.Text.Blank

/-! # Numbers of scripts

    A script calculates with doubles, which include infinities and a value
    that is no number.  Some operators see a number as one of 32 bits. -/

namespace NodeFlow.Script

/-- A number of a script. -/
inductive Num where
  /-- Not a number. -/
  | nan
  /-- An infinity. -/
  | infinite (negative : Bool)
  /-- A finite double. -/
  | finite (x : Binary64)
  deriving DecidableEq, Repr, Inhabited

namespace Num

/-- A finite double, or an infinity when the double overflows. -/
def ofResult (negative : Bool) : Option Binary64 → Num
  | some x => .finite x
  | none => .infinite negative

/-- The double nearest to a decimal. -/
def ofDecimal (digits : Nat) (scale : Int) : Num :=
  ofResult false (Binary64.ofDecimal false digits scale)

/-- The double nearest to a fraction. -/
def ofRatio (negative : Bool) (num den : Nat) : Num :=
  ofResult negative (Binary64.ofRatio negative num den)

/-- The double nearest to a natural number. -/
def ofNat (n : Nat) : Num := ofRatio false n 1

/-- The double nearest to a whole number. -/
def ofInt (n : Int) : Num := ofRatio (n < 0) n.natAbs 1

/-- Zero. -/
def zero : Num := .finite (Binary64.zero false)

/-- One. -/
def one : Num := ofNat 1

/-- The double nearest to a JSON number. -/
def ofJson : Number → Num
  | .whole n => ofInt n
  | .real x => .finite x

/-! ## Arithmetic -/

/-- The number with the other sign. -/
def neg : Num → Num
  | .nan => .nan
  | .infinite s => .infinite (!s)
  | .finite x => .finite x.neg

/-- The sum. -/
def add : Num → Num → Num
  | .nan, _ | _, .nan => .nan
  | .infinite s, .infinite t => if s = t then .infinite s else .nan
  | .infinite s, .finite _ | .finite _, .infinite s => .infinite s
  | .finite x, .finite y => ofResult x.negative (x.add y)

/-- The difference. -/
def sub (a b : Num) : Num := a.add b.neg

/-- The product. -/
def mul : Num → Num → Num
  | .nan, _ | _, .nan => .nan
  | .infinite s, .infinite t => .infinite (s != t)
  | .infinite s, .finite x | .finite x, .infinite s =>
      if x.isZero then .nan else .infinite (s != x.negative)
  | .finite x, .finite y =>
      ofResult (x.negative != y.negative) (x.mul y)

/-- The quotient. -/
def div : Num → Num → Num
  | .nan, _ | _, .nan | .infinite _, .infinite _ => .nan
  | .infinite s, .finite y => .infinite (s != y.negative)
  | .finite x, .infinite t => .finite (Binary64.zero (x.negative != t))
  | .finite x, .finite y =>
      let negative := x.negative != y.negative
      if y.isZero then if x.isZero then .nan else .infinite negative
      else ofResult negative (x.div y)

/-- The remainder of a division, with the sign of the dividend. -/
def rem : Num → Num → Num
  | .nan, _ | _, .nan | .infinite _, _ => .nan
  | .finite x, .infinite _ => .finite x
  | .finite x, .finite y =>
      if y.isZero then .nan
      else
        let (a, b) := x.ratio
        let (c, d) := y.ratio
        ofRatio x.negative (a * d % (c * b)) (b * d)

/-- The whole number that a number is, if it is one. -/
def whole? : Num → Option Int
  | .finite x =>
      let (a, b) := x.ratio
      if a % b = 0 then
        some (if x.negative then -(a / b : Nat) else (a / b : Nat))
      else none
  | _ => none

/-- The greatest exponent of a power that is worked out. -/
def greatestPower : Nat := 5000

/-- The power of a finite number with a whole exponent. -/
def wholePower (x : Binary64) (exponent : Int) : Num :=
  let odd := exponent.natAbs % 2 = 1
  let negative := x.negative && odd
  if exponent.natAbs = 0 then one
  else if x.isZero then
    if 0 < exponent then .finite (Binary64.zero negative)
    else .infinite negative
  else
    let (a, b) := x.ratio
    let n := min exponent.natAbs greatestPower
    if 0 < exponent then ofRatio negative (a ^ n) (b ^ n)
    else ofRatio negative (b ^ n) (a ^ n)

/-- The power, with an exponent that is whole or infinite. -/
def pow : Num → Num → Num
  | _, .nan => .nan
  | .nan, .finite y => if y.isZero then one else .nan
  | .nan, _ => .nan
  | .infinite s, .finite y =>
      let odd := (whole? (.finite y)).any (fun n => n % 2 != 0)
      if y.isZero then one
      else if y.negative then .finite (Binary64.zero (s && odd))
      else .infinite (s && odd)
  | .infinite _, .infinite t => if t then zero else .infinite false
  | .finite x, .infinite t =>
      let (a, b) := x.ratio
      if a = b then .nan
      else if (b < a) == t then zero
      else .infinite false
  | .finite x, .finite y =>
      match whole? (.finite y) with
      | some n => wholePower x n
      | none => .nan

/-- Whether one number is less than another; nothing if they cannot be
    compared. -/
def less? : Num → Num → Option Bool
  | .nan, _ | _, .nan => none
  | .infinite s, .infinite t => some (s && !t)
  | .infinite s, .finite _ => some s
  | .finite _, .infinite t => some (!t)
  | .finite x, .finite y =>
      let (a, b) := x.ratio
      let (c, d) := y.ratio
      let m : Int := if x.negative then -(a * d : Nat) else (a * d : Nat)
      let n : Int := if y.negative then -(c * b : Nat) else (c * b : Nat)
      some (decide (m < n))

/-- Whether two numbers are the same; the zeros are. -/
def same (a b : Num) : Bool :=
  less? a b == some false && less? b a == some false

/-! ## Bits -/

/-- A whole number as a number of 32 bits. -/
def wrap (n : Int) : Int := Int.bmod n (2 ^ 32)

/-- A number without its fraction, as one of 32 bits. -/
def bits : Num → Int
  | .finite x =>
      let (a, b) := x.ratio
      wrap (if x.negative then -(a / b : Nat) else (a / b : Nat))
  | _ => 0

/-- The natural number of the same 32 bits. -/
def unsigned (n : Int) : Nat := (n % 2 ^ 32).toNat

/-- An operation on bits. -/
def onBits (f : Nat → Nat → Nat) (a b : Num) : Num :=
  ofInt (wrap (f (unsigned a.bits) (unsigned b.bits) : Nat))

/-- The places of a shift. -/
def places (b : Num) : Nat := unsigned b.bits % 32

/-- The bits moved to the left. -/
def shiftLeft (a b : Num) : Num := ofInt (wrap (a.bits * 2 ^ places b))

/-- The bits moved to the right, the sign staying. -/
def shiftRight (a b : Num) : Num := ofInt (a.bits.fdiv (2 ^ places b))

/-- The bits moved to the right, as a natural number. -/
def shiftDown (a b : Num) : Num := ofNat (unsigned a.bits / 2 ^ places b)

/-! ## Texts -/

/-- Numbers from a millionth up to a one with 21 zeros are written without an
    exponent, whole numbers without a point and zero without a sign. -/
def layout : Shortest.Layout := ⟨5, 21, false, false⟩

/-- The text of a number. -/
def text : Num → String
  | .nan => "NaN"
  | .infinite negative => if negative then "-Infinity" else "Infinity"
  | .finite x => Shortest.render layout x

/-- Whether a number counts as true. -/
def truthy : Num → Bool
  | .nan => false
  | .infinite _ => true
  | .finite x => !x.isZero

/-- The number that decimal digits write, with a point and an exponent if
    there are any. -/
def ofDecimalChars? (cs : List Char) : Option Num :=
  let (whole, rest) := Numeral.takeDigits cs
  let (fraction, rest) :=
    match rest with
    | '.' :: more => Numeral.takeDigits more
    | _ => ([], rest)
  if whole.isEmpty && fraction.isEmpty then none
  else
    let digits := Numeral.digitsValue (whole ++ fraction)
    let power : Option Int :=
      match rest with
      | [] => some 0
      | e :: more =>
          let (negative, ds) :=
            match more with
            | '-' :: ds => (true, ds)
            | '+' :: ds => (false, ds)
            | ds => (false, ds)
          if (e = 'e' || e = 'E') && !ds.isEmpty && ds.all Char.isDigit then
            let n : Int := Numeral.digitsValue ds
            some (if negative then -n else n)
          else none
    power.map (fun p => ofDecimal digits (p - fraction.length))

/-- The value of a digit of a base up to 36. -/
def digitValue? (base : Nat) (c : Char) : Option Nat :=
  let n :=
    if c.isDigit then c.toNat - '0'.toNat
    else if c.isAlpha then c.toLower.toNat - 'a'.toNat + 10
    else base
  if n < base then some n else none

/-- The number that digits of a base write; there is at least one. -/
def ofDigits? (base : Nat) (cs : List Char) : Option Nat :=
  if cs.isEmpty then none
  else
    cs.foldlM (fun n c => (digitValue? base c).map (fun d => n * base + d)) 0

/-- The base that a letter after a zero stands for. -/
def baseOf? (c : Char) : Option Nat :=
  match c with
  | 'x' | 'X' => some 16
  | 'o' | 'O' => some 8
  | 'b' | 'B' => some 2
  | _ => none

/-- Whether a character is white space of a script, line ends included. -/
def isSpace (c : Char) : Bool :=
  (Text.isBlank c && c.toNat != 0x85) || c.toNat = 0xFEFF

/-- The text without the white space at its ends. -/
def trimmed (cs : List Char) : List Char :=
  ((cs.dropWhile isSpace).reverse.dropWhile isSpace).reverse

/-- The number that digits of a base write after a zero and a letter.  A
    plus sign may stand before digits of at most 32 bits. -/
def ofPrefixed (base : Nat) (cs : List Char) : Num :=
  match cs with
  | '+' :: rest =>
      match ofDigits? base rest with
      | some n => if n < 2 ^ 32 then ofNat n else .nan
      | none => .nan
  | cs => ((ofDigits? base cs).map ofNat).getD .nan

/-- The number that a text stands for after its sign.  Infinity may be
    written in any case, and cut short. -/
def ofSigned (cs : List Char) : Num :=
  let lower := String.ofList (cs.map Char.toLower)
  if lower = "inf" || lower = "infinity" then .infinite false
  else (ofDecimalChars? cs).getD .nan

/-- The number that a text stands for in arithmetic. -/
def ofText (cs : List Char) : Num :=
  match trimmed cs with
  | [] => zero
  | '-' :: rest => (ofSigned rest).neg
  | '+' :: rest => ofSigned rest
  | '0' :: letter :: rest =>
      match baseOf? letter with
      | some base => ofPrefixed base rest
      | none => (ofDecimalChars? ('0' :: letter :: rest)).getD .nan
  | cs =>
      if cs = "Infinity".toList then .infinite false
      else (ofDecimalChars? cs).getD .nan

end Num
end NodeFlow.Script
