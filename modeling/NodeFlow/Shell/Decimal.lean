import NodeFlow.Number.Shortest
import NodeFlow.Shell.Octets

/-! # Numbers that are not whole

    `printf` reads and writes numbers with a fraction.  Each family keeps its
    own number of binary digits of them.  What is written is the decimal
    number nearest to what was kept. -/

namespace NodeFlow.Shell

/-- How much is kept of a number: so many binary digits, with an exponent
    within bounds. -/
structure Precision where
  /-- The number of binary digits. -/
  digits : Nat
  /-- The least exponent. -/
  least : Int
  /-- The greatest exponent. -/
  greatest : Int
  deriving DecidableEq, Repr

/-- What each family keeps of a number. -/
def Precision.of : Dialect → Precision
  | .plain => ⟨53, -1074, 971⟩
  | .extended => ⟨64, -16445, 16320⟩

/-- The size of a number. -/
inductive Magnitude where
  /-- A whole number times a power of two. -/
  | finite (significand : Nat) (exponent : Int)
  /-- More than any number. -/
  | infinite
  /-- It is no number. -/
  | none
  deriving DecidableEq, Repr

/-- A number with its sign. -/
structure Figure where
  /-- Whether it has a minus sign. -/
  negative : Bool
  /-- Its size. -/
  magnitude : Magnitude
  deriving DecidableEq, Repr

namespace Figure

/-- The magnitude nearest to a fraction, and whether it is out of bounds. -/
def nearest (p : Precision) (num den : Nat) : Magnitude × Bool :=
  if num = 0 then (.finite 0 0, false)
  else
    let k : Int := num.log2 - den.log2
    let below : Bool :=
      if 0 ≤ k then num < den * 2 ^ k.toNat else num * 2 ^ (-k).toNat < den
    let e := max p.least ((if below then k - 1 else k) - (p.digits - 1))
    let m :=
      if 0 ≤ e then Binary64.roundDiv num (den * 2 ^ e.toNat)
      else Binary64.roundDiv (num * 2 ^ (-e).toNat) den
    let (m, e) :=
      if m = 2 ^ p.digits then (2 ^ (p.digits - 1), e + 1) else (m, e)
    if p.greatest < e then (.infinite, true)
    else (.finite m e, decide (m < 2 ^ (p.digits - 1)))

/-- The magnitude nearest to `digits * base ^ scale`. -/
def scaled (p : Precision) (digits base : Nat) (scale : Int) :
    Magnitude × Bool :=
  if digits = 0 then (.finite 0 0, false)
  else if 20000 < scale then (.infinite, true)
  else if scale < -40000 then (.finite 0 0, true)
  else if 0 ≤ scale then nearest p (digits * base ^ scale.toNat) 1
  else nearest p digits (base ^ (-scale).toNat)

/-! ## Reading -/

/-- An exponent with its sign after one of some letters, and what follows. -/
def exponent (letters : List Char) (cs : List Char) : Int × List Char :=
  match cs with
  | c :: rest =>
      if letters.contains c then
        let (negative, ds) :=
          match rest with
          | '-' :: ds => (true, ds)
          | '+' :: ds => (false, ds)
          | ds => (false, ds)
        let digits := ds.takeWhile Char.isDigit
        if digits.isEmpty then (0, cs)
        else
          let n : Int := decimalValue digits
          (if negative then -n else n, ds.drop digits.length)
      else (0, cs)
  | [] => (0, [])

/-- Digits with a point among them, how many follow the point, and the
    characters after them. -/
def pointed (is : Char → Bool) (cs : List Char) :
    List Char × Nat × List Char :=
  let whole := cs.takeWhile is
  match cs.drop whole.length with
  | '.' :: rest =>
      let fraction := rest.takeWhile is
      if whole.isEmpty && fraction.isEmpty then ([], 0, cs)
      else (whole ++ fraction, fraction.length, rest.drop fraction.length)
  | rest => (whole, 0, rest)

/-- What follows a word in any case. -/
def afterWord? (word : String) (cs : List Char) : Option (List Char) :=
  after? word.toList ((cs.take word.length).map Char.toLower
    ++ cs.drop word.length)

/-- What has been read of a number. -/
structure Reading where
  /-- The number. -/
  figure : Figure
  /-- Whether it is out of bounds. -/
  outOfBounds : Bool := false
  /-- What follows. -/
  rest : List Char

/-- Read a number without its sign; nothing if there is none. -/
def readMagnitude? (p : Precision) (cs : List Char) :
    Option ((Magnitude × Bool) × List Char) :=
  let decimal : Option ((Magnitude × Bool) × List Char) :=
    let (digits, behind, rest) := pointed Char.isDigit cs
    if digits.isEmpty then none
    else
      let (e, rest) := exponent ['e', 'E'] rest
      some (scaled p (decimalValue digits) 10 (e - behind), rest)
  match afterWord? "infinity" cs, afterWord? "inf" cs, afterWord? "nan" cs with
  | some rest, _, _ => some ((.infinite, false), rest)
  | none, some rest, _ => some ((.infinite, false), rest)
  | none, none, some rest => some ((.none, false), rest)
  | none, none, none =>
      match cs with
      | '0' :: x :: rest =>
          if x = 'x' || x = 'X' then
            let (digits, behind, rest) := pointed isHex rest
            if digits.isEmpty then decimal
            else
              let (e, rest) := exponent ['p', 'P'] rest
              some (scaled p (hexValue digits) 2 (e - 4 * behind), rest)
          else decimal
      | _ => decimal

/-- Read a number at the beginning of a text; zero if there is none. -/
def read (p : Precision) (cs : List Char) : Reading :=
  let text := cs.dropWhile isSpace
  let (negative, text) :=
    match text with
    | '-' :: rest => (true, rest)
    | '+' :: rest => (false, rest)
    | text => (false, text)
  match readMagnitude? p text with
  | some ((m, out), rest) => ⟨⟨negative, m⟩, out, rest⟩
  | none => ⟨⟨false, .finite 0 0⟩, false, cs⟩

/-! ## Writing -/

/-- Numerator and denominator. -/
def ratio (m : Nat) (e : Int) : Nat × Nat :=
  if 0 ≤ e then (m * 2 ^ e.toNat, 1) else (m, 2 ^ (-e).toNat)

/-- The digits of a number, at least so many. -/
def digitsOf (least n : Nat) : List Char :=
  let ds := Nat.toDigits 10 n
  List.replicate (least - ds.length) '0' ++ ds

/-- A point, if something follows it or it is asked for. -/
def pointBefore (always : Bool) (fraction : List Char) : List Char :=
  if fraction.isEmpty && !always then [] else '.' :: fraction

/-- A number with so many digits behind the point. -/
def fixed (always : Bool) (behind m : Nat) (e : Int) : List Char :=
  let (num, den) := ratio m e
  let ds := digitsOf (behind + 1) (Binary64.roundDiv (num * 10 ^ behind) den)
  ds.take (ds.length - behind)
    ++ pointBefore always (ds.drop (ds.length - behind))

/-- The digits of a number with so many behind the first one, and the power of
    ten of the first one. -/
def leading (behind m : Nat) (e : Int) : List Char × Int :=
  if m = 0 then (List.replicate (behind + 1) '0', 0)
  else
    let (num, den) := ratio m e
    let k := Shortest.leadingExponent num den
    let shift := (behind : Int) - k
    let n :=
      if 0 ≤ shift then Binary64.roundDiv (num * 10 ^ shift.toNat) den
      else Binary64.roundDiv num (den * 10 ^ (-shift).toNat)
    if n = 10 ^ (behind + 1) then (Nat.toDigits 10 (n / 10), k + 1)
    else (Nat.toDigits 10 n, k)

/-- A power of ten as it is written behind a number. -/
def powerText (k : Int) : List Char :=
  (if k < 0 then '-' else '+') :: digitsOf 2 k.natAbs

/-- A number with one digit in front of the point and a power of ten. -/
def scientific (always : Bool) (behind m : Nat) (e : Int) : List Char :=
  let (ds, k) := leading behind m e
  ds.take 1 ++ pointBefore always (ds.drop 1) ++ 'e' :: powerText k

/-- Digits without zeros at the end. -/
def withoutZeros (ds : List Char) : List Char :=
  (ds.reverse.dropWhile (fun c => c = '0')).reverse

/-- A number with so many digits in the shorter of both forms; zeros at the end
    of the fraction stay only if `always`. -/
def general (always : Bool) (size m : Nat) (e : Int) : List Char :=
  let size := max 1 size
  let (ds, k) := leading (size - 1) m e
  if -4 ≤ k && k < size then
    let text := fixed always (size - 1 - k).toNat m e
    if always then text
    else
      let whole := text.takeWhile (fun c => c != '.')
      whole ++ pointBefore false
        (withoutZeros (text.drop (whole.length + 1)))
  else
    let fraction := if always then ds.drop 1 else withoutZeros (ds.drop 1)
    ds.take 1 ++ pointBefore always fraction ++ 'e' :: powerText k

/-- Hexadecimal digits of a number, so many. -/
def hexDigits (size n : Nat) : List Char :=
  let ds := Nat.toDigits 16 n
  List.replicate (size - ds.length) '0' ++ ds

/-- A number with hexadecimal digits and a power of two. -/
def hexadecimal (p : Precision) (always : Bool) (behind : Option Nat)
    (m : Nat) (e : Int) : List Char :=
  let size := if p.digits = 64 then 15 else 13
  let (n, k) :=
    if m = 0 then (0, 0)
    else
      let up := p.digits - 1 - m.log2
      let up := if p.digits = 64 then up else min up (e - p.least).toNat
      (m * 2 ^ up, e - up + (4 * size : Nat))
  let (n, fraction) :=
    match behind with
    | some b =>
        if b < size then (Binary64.roundDiv n (16 ^ (size - b)), b)
        else (n * 16 ^ (b - size), b)
    | none => (n, size)
  let (n, k) :=
    if 16 ^ (fraction + 1) ≤ n then (n / 16, k + 4) else (n, k)
  let ds := hexDigits fraction (n % 16 ^ fraction)
  let ds := if behind.isSome then ds else withoutZeros ds
  let power := (if k < 0 then '-' else '+') :: Nat.toDigits 10 k.natAbs
  "0x".toList ++ hexDigits 1 (n / 16 ^ fraction) ++ pointBefore always ds
    ++ 'p' :: power

/-- A number in the form that a letter asks for. -/
def form (p : Precision) (letter : Char) (always : Bool)
    (behind : Option Nat) (m : Nat) (e : Int) : List Char :=
  match letter with
  | 'e' => scientific always (behind.getD 6) m e
  | 'f' => fixed always (behind.getD 6) m e
  | 'g' => general always (behind.getD 6) m e
  | _ => hexadecimal p always behind m e

/-- The characters of a number without its sign. -/
def text (p : Precision) (letter : Char) (always : Bool)
    (behind : Option Nat) (f : Figure) : List Char :=
  let cs :=
    match f.magnitude with
    | .infinite => "inf".toList
    | .none => "nan".toList
    | .finite m e => form p letter.toLower always behind m e
  if letter.isUpper then cs.map Char.toUpper else cs

end Figure
end NodeFlow.Shell
