import NodeFlow.Json.Decode
import NodeFlow.Json.Numeral
import NodeFlow.Text.Blank

/-! # Points in time

    A timestamp counts seconds from the start of 1970 in universal time, and
    nanoseconds within the second; in a leap second the nanoseconds run on
    beyond a whole second.  Its text is the calendar date and time of day of
    RFC 3339.  Reading is more generous than writing: digits may be fewer,
    blanks may stand around the signs, and any offset from universal time is
    allowed. -/

namespace NodeFlow

/-- A point in time. -/
structure Timestamp where
  /-- Seconds since the start of 1970. -/
  seconds : Int
  /-- Nanoseconds within the second, up to two seconds of them in a leap
      second. -/
  nanos : Nat
  deriving DecidableEq, Repr, Inhabited

namespace Timestamp

/-- Days from the start of 1970 to a date of the Gregorian calendar. -/
def dayNumber (year : Int) (month day : Nat) : Int :=
  let y := if month ≤ 2 then year - 1 else year
  let era := y.fdiv 400
  let yearOfEra := y - era * 400
  let monthFromMarch : Int := ((month + 9) % 12 : Nat)
  let dayOfYear := (153 * monthFromMarch + 2).fdiv 5 + day - 1
  let dayOfEra :=
    yearOfEra * 365 + yearOfEra.fdiv 4 - yearOfEra.fdiv 100 + dayOfYear
  era * 146097 + dayOfEra - 719468

/-- Year, month and day of a number of days from the start of 1970. -/
def dateOf (days : Int) : Int × Nat × Nat :=
  let z := days + 719468
  let era := z.fdiv 146097
  let dayOfEra := z - era * 146097
  let yearOfEra :=
    (dayOfEra - dayOfEra.fdiv 1460 + dayOfEra.fdiv 36524
      - dayOfEra.fdiv 146096).fdiv 365
  let dayOfYear :=
    dayOfEra - (365 * yearOfEra + yearOfEra.fdiv 4 - yearOfEra.fdiv 100)
  let mp := (5 * dayOfYear + 2).fdiv 153
  let day := dayOfYear - (153 * mp + 2).fdiv 5 + 1
  let month := if mp < 10 then mp + 3 else mp - 9
  let year := yearOfEra + era * 400 + (if month ≤ 2 then 1 else 0)
  (year, month.toNat, day.toNat)

/-- Whether a year has a leap day. -/
def isLeap (year : Int) : Bool :=
  year.fmod 4 == 0 && (year.fmod 100 != 0 || year.fmod 400 == 0)

/-- The number of days of a month. -/
def daysIn (year : Int) (month : Nat) : Nat :=
  if month = 2 then (if isLeap year then 29 else 28)
  else if month = 4 || month = 6 || month = 9 || month = 11 then 30
  else 31

/-- The first year that a timestamp can lie in. -/
def firstYear : Int := -262143

/-- The last year that a timestamp can lie in. -/
def lastYear : Int := 262142

/-- The first second of the first year. -/
def firstSecond : Int := dayNumber firstYear 1 1 * 86400

/-- The last second of the last year. -/
def lastSecond : Int := dayNumber (lastYear + 1) 1 1 * 86400 - 1

/-! ## Writing -/

/-- A number with at least `width` digits. -/
def padded (width n : Nat) : String :=
  let digits := Nat.toDigits 10 n
  String.ofList (List.replicate (width - digits.length) '0' ++ digits)

/-- A year: four digits, or a sign and more digits outside four. -/
def yearText (year : Int) : String :=
  if 0 ≤ year && year ≤ 9999 then padded 4 year.toNat
  else (if year < 0 then "-" else "+") ++ padded 4 year.natAbs

/-- The fraction of a second in the fewest of 0, 3, 6 or 9 digits that lose
    nothing. -/
def fractionText (nanos : Nat) : String :=
  if nanos = 0 then ""
  else if nanos % 1000000 = 0 then "." ++ padded 3 (nanos / 1000000)
  else if nanos % 1000 = 0 then "." ++ padded 6 (nanos / 1000)
  else "." ++ padded 9 nanos

/-- The text of a timestamp. -/
def text (t : Timestamp) : String :=
  let (year, month, day) := dateOf (t.seconds.fdiv 86400)
  let ofDay := (t.seconds.fmod 86400).toNat
  let leap := 1000000000 ≤ t.nanos
  let second := ofDay % 60 + (if leap then 1 else 0)
  let nanos := if leap then t.nanos - 1000000000 else t.nanos
  yearText year ++ "-" ++ padded 2 month ++ "-" ++ padded 2 day ++ "T"
    ++ padded 2 (ofDay / 3600) ++ ":" ++ padded 2 (ofDay / 60 % 60) ++ ":"
    ++ padded 2 second ++ fractionText nanos ++ "Z"

/-! ## Reading -/

/-- Drop the blanks at the front. -/
def skipBlanks (cs : List Char) : List Char := cs.dropWhile Text.isBlank

/-- Read a number of at least one and at most `width` digits, after
    blanks. -/
def readNumber (width : Nat) (cs : List Char) : Option (Nat × List Char) :=
  let cs := skipBlanks cs
  let digits := (cs.take width).takeWhile Char.isDigit
  if digits.isEmpty then none
  else some (Numeral.digitsValue digits, cs.drop digits.length)

/-- Read the digits of a year after its sign. -/
def readSignedYear (sign : Int) (cs : List Char) : Option (Int × List Char) :=
  let digits := cs.takeWhile Char.isDigit
  if digits.isEmpty then none
  else some (sign * Numeral.digitsValue digits, cs.drop digits.length)

/-- Read a year: four digits, or after a sign any number of them. -/
def readYear (cs : List Char) : Option (Int × List Char) :=
  match skipBlanks cs with
  | '-' :: rest => readSignedYear (-1) rest
  | '+' :: rest => readSignedYear 1 rest
  | cs => (readNumber 4 cs).map (fun (n, r) => (n, r))

/-- Read one given character, after blanks. -/
def readMark (mark : Char) (cs : List Char) : Option (List Char) :=
  match skipBlanks cs with
  | c :: rest => if c = mark then some rest else none
  | [] => none

/-- Read the fraction of a second, if there is one; digits after the ninth
    do not count. -/
def readFraction (cs : List Char) : Option (Nat × List Char) :=
  match cs with
  | '.' :: rest =>
      let digits := rest.takeWhile Char.isDigit
      let kept := digits.take 9
      if digits.isEmpty then none
      else
        some (Numeral.digitsValue kept * 10 ^ (9 - kept.length),
          rest.drop digits.length)
  | cs => some (0, cs)

/-- The value of two digits. -/
def twoDigits (cs : List Char) : Option (Nat × List Char) :=
  match cs with
  | a :: b :: rest =>
      if a.isDigit && b.isDigit then
        some (Numeral.digitsValue [a, b], rest)
      else none
  | _ => none

/-- Read two digits of hours, colons or blanks, and two digits of
    minutes. -/
def readHoursMinutes (sign : Int) (cs : List Char) :
    Option (Int × List Char) := do
  let (hours, cs) ← twoDigits cs
  let cs := cs.dropWhile (fun c => c = ':' || Text.isBlank c)
  let (minutes, cs) ← twoDigits cs
  if 60 ≤ minutes then none
  else some (sign * (hours * 3600 + minutes * 60 : Nat), cs)

/-- Read the offset from universal time, in seconds. -/
def readOffset (cs : List Char) : Option (Int × List Char) :=
  match skipBlanks cs with
  | [] => none
  | c :: rest =>
      if (c :: rest.take 2).map Char.toLower = ['u', 't', 'c'] then
        some (0, rest.drop 2)
      else if c = 'Z' || c = 'z' then some (0, rest)
      else if c = '+' then readHoursMinutes 1 rest
      else if c = '-' || c = '−' then readHoursMinutes (-1) rest
      else none

/-- The timestamp that a text names. -/
def ofText? (s : String) : Option Timestamp := do
  let (year, cs) ← readYear s.toList
  let cs ← readMark '-' cs
  let (month, cs) ← readNumber 2 cs
  let cs ← readMark '-' cs
  let (day, cs) ← readNumber 2 cs
  let cs ←
    match cs with
    | c :: rest => if c = 'T' || c = 't' || c = ' ' then some rest else none
    | [] => none
  let (hour, cs) ← readNumber 2 cs
  let cs ← readMark ':' cs
  let (minute, cs) ← readNumber 2 cs
  let cs ← readMark ':' cs
  let (second, cs) ← readNumber 2 cs
  let (nanos, cs) ← readFraction cs
  let (offset, cs) ← readOffset cs
  let dateExists :=
    firstYear ≤ year && year ≤ lastYear && 1 ≤ month && month ≤ 12 && 1 ≤ day
      && day ≤ daysIn year month
  let timeExists :=
    hour ≤ 23 && minute ≤ 59 && second ≤ 60 && -86400 < offset
      && offset < 86400
  if dateExists && timeExists && (skipBlanks cs).isEmpty then
    let leap := second = 60
    let ofDay : Int := hour * 3600 + minute * 60 + (if leap then 59 else second)
    let seconds := dayNumber year month day * 86400 + ofDay - offset
    if firstSecond ≤ seconds && seconds ≤ lastSecond then
      some
        { seconds := seconds
          nanos := if leap then nanos + 1000000000 else nanos }
    else none
  else none

/-- Decode a timestamp from its text. -/
def ofJson (v : Json) : Decoded Timestamp := do
  match ofText? (← v.toText) with
  | some t => .ok t
  | none => .error (.malformed "not a point in time")

/-- Encode a timestamp as its text. -/
def toJson (t : Timestamp) : Json := .str t.text

end Timestamp
end NodeFlow
