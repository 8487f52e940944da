import NodeFlow.Shell.Decimal
import NodeFlow.Shell.Quote
import NodeFlow.Shell.Words
import NodeFlow.Timestamp

/-! # What `echo` and `printf` print

    Both turn arguments into octets.  In their texts a backslash may begin an
    escape: a letter for a control character, or the digits of an octet.

    A format of `printf` prints arguments in fields, and is used again as long
    as there are arguments. -/

namespace NodeFlow.Shell

namespace Printing

/-! ## Escapes -/

/-- What an escape prints. -/
inductive Escape where
  /-- Octets, after taking so many characters; something may be wrong. -/
  | prints (octets : List Char) (taken : Nat) (fault : Option String)
  /-- Nothing, and nothing comes after it either. -/
  | stops
  /-- It is none; something may be wrong. -/
  | none (fault : Option String)
  deriving DecidableEq, Repr

/-- The octet of a letter after a backslash. -/
def letterOctet? (c : Char) : Option Nat :=
  match c with
  | 'a' => some 7
  | 'b' => some 8
  | 'e' => some 27
  | 'f' => some 12
  | 'n' => some 10
  | 'r' => some 13
  | 't' => some 9
  | 'v' => some 11
  | '\\' => some 92
  | _ => none

/-- Which escapes a text may have besides letters. -/
structure Escapes where
  /-- Whether characters have numbers with hexadecimal digits. -/
  extended : Bool
  /-- What makes a glyph. -/
  encoding : Encoding
  /-- Up to three octal digits behind a zero. -/
  zeroed : Bool
  /-- Up to three octal digits. -/
  bare : Bool
  /-- A `c`, after which nothing is printed, and no quotes. -/
  ends : Bool
  /-- Whether digits that are missing are a fault. -/
  strict : Bool
  deriving DecidableEq, Repr

/-- The escapes in what `echo` prints. -/
def Escapes.ofEcho (d : Dialect) (e : Encoding) : Escapes :=
  ⟨d = .extended, e, true, d = .plain, true, false⟩

/-- The escapes in an argument of `printf`. -/
def Escapes.ofArgument (d : Dialect) (e : Encoding) : Escapes :=
  ⟨d = .extended, e, true, true, true, true⟩

/-- The escapes in the format of `printf`. -/
def Escapes.ofFormat (d : Dialect) (e : Encoding) : Escapes :=
  ⟨d = .extended, e, false, true, false, true⟩

/-- The octet of octal digits. -/
def octet (digits : List Char) : List Char :=
  [Char.ofNat (octalValue digits % 256)]

/-- What follows a backslash. -/
def escape (known : Escapes) (cs : List Char) : Escape :=
  match cs with
  | [] => .none none
  | c :: rest =>
      match letterOctet? c with
      | some n => .prints [Char.ofNat n] 1 none
      | none =>
          let zeroed := (rest.take 3).takeWhile isOctal
          let bare := (cs.take 3).takeWhile isOctal
          let hex (n : Nat) : List Char := (rest.take n).takeWhile isHex
          let missing (kind : String) : Escape :=
            .none (if known.strict then
              some ("missing " ++ kind ++ " digit for \\" ++ String.singleton c)
              else none)
          if c = 'c' && known.ends then .stops
          else if c = '0' && known.zeroed then
            .prints (octet zeroed) (1 + zeroed.length) none
          else if isOctal c && known.bare then
            .prints (octet bare) bare.length none
          else if !known.extended then .none none
          else if c = 'E' then .prints [Char.ofNat 27] 1 none
          else if c = 'x' then
            let ds := hex 2
            if ds.isEmpty then missing "hex"
            else .prints [Char.ofNat (hexValue ds)] (1 + ds.length) none
          else if c = 'u' || c = 'U' then
            let ds := hex (if c = 'u' then 4 else 8)
            if ds.isEmpty then missing "unicode"
            else
              .prints (Words.numbered known.encoding (hexValue ds))
                (1 + ds.length) none
          else if (c = '"' || c = '\'' || c = '?') && !known.ends then
            .prints [c] 1 none
          else .none none

/-- A text whose escapes have been carried out. -/
structure Unescaped where
  /-- The octets. -/
  octets : List Char
  /-- Whether printing goes on after it. -/
  goesOn : Bool
  /-- What is wrong with it. -/
  faults : List String

/-- A text with its escapes carried out.  The first `skip` characters have been
    read already. -/
def unescaped (known : Escapes) : Nat → List Char → Unescaped
  | _, [] => ⟨[], true, []⟩
  | skip + 1, _ :: rest => unescaped known skip rest
  | 0, c :: rest =>
      if c = '\\' then
        match escape known rest with
        | .prints octets taken fault =>
            let u := unescaped known taken rest
            { u with octets := octets ++ u.octets
                     faults := fault.toList ++ u.faults }
        | .stops => ⟨[], false, []⟩
        | .none fault =>
            let u := unescaped known 0 rest
            { u with octets := c :: u.octets
                     faults := fault.toList ++ u.faults }
      else
        let u := unescaped known 0 rest
        { u with octets := c :: u.octets }

/-! ## echo -/

/-- Whether an argument consists of options of `echo`. -/
def isEchoOption (arg : String) : Bool :=
  match arg.toList with
  | '-' :: c :: rest =>
      (c :: rest).all (fun c => c = 'n' || c = 'e' || c = 'E')
  | _ => false

/-- What `echo` prints; `usual` tells whether it carries out escapes unless it
    is told otherwise. -/
def echo (d : Dialect) (e : Encoding) (usual : Bool) (args : List String) :
    String :=
  let known := Escapes.ofEcho d e
  let close (quiet : Bool) : List Char := if quiet then [] else ['\n']
  match d with
  | .plain =>
      let (quiet, args) :=
        match args with
        | "-n" :: rest => (true, rest)
        | args => (false, args)
      let u := unescaped known 0 (" ".intercalate args).toList
      String.ofList (u.octets ++ close (quiet || !u.goesOn))
  | .extended =>
      let options := (args.takeWhile isEchoOption).flatMap String.toList
      let line := (" ".intercalate (args.dropWhile isEchoOption)).toList
      let quiet := options.contains 'n'
      let last := (options.filter (fun c => c = 'e' || c = 'E')).getLast?
      let escapes := last = some 'e' || (usual && last != some 'E')
      if escapes then
        let u := unescaped known 0 line
        String.ofList (u.octets ++ close (quiet || !u.goesOn))
      else String.ofList (line ++ close quiet)

/-! ## Whole numbers -/

/-- A whole number at the beginning of a text. -/
structure Whole where
  /-- Whether it has a minus sign. -/
  negative : Bool
  /-- Its size. -/
  size : Nat
  /-- What follows; the text itself, if there is no number. -/
  rest : List Char

/-- Read a whole number. -/
def whole (cs : List Char) : Whole :=
  let text := cs.dropWhile isSpace
  let (negative, ds) :=
    match text with
    | '-' :: rest => (true, rest)
    | '+' :: rest => (false, rest)
    | text => (false, text)
  if (ds.head?.map Char.isDigit).getD false then
    let (size, rest) := numberAhead ds
    ⟨negative, size, rest⟩
  else ⟨false, 0, cs⟩

/-- The value of a whole number that has a sign, and whether it is out of
    bounds. -/
def Whole.signed (n : Whole) : Int × Bool :=
  let v : Int := if n.negative then -(n.size : Int) else n.size
  if 2 ^ 63 ≤ v then (2 ^ 63 - 1, true)
  else if v < -(2 ^ 63) then (-(2 ^ 63), true)
  else (v, false)

/-- The value of a whole number without a sign, and whether it is out of
    bounds. -/
def Whole.unsigned (n : Whole) : Nat × Bool :=
  if 2 ^ 64 ≤ n.size then (2 ^ 64 - 1, true)
  else if n.negative then ((2 ^ 64 - n.size) % 2 ^ 64, false)
  else (n.size, false)

/-- The number of the glyph that a quoted argument begins with. -/
def quotedNumber? (e : Encoding) (arg : String) : Option Nat :=
  match arg.toList with
  | q :: rest =>
      if q = '"' || q = '\'' then
        match Octets.glyphs e rest with
        | g :: _ => some (Octets.charOf g).toNat
        | [] => some 0
      else none
  | [] => none

/-- What is wrong with an argument that should be a number, of which `rest`
    could not be read. -/
def numberFault? (d : Dialect) (arg : String) (rest : List Char)
    (outOfBounds : Bool) : Option String :=
  let range := "Numerical result out of range"
  match d with
  | .plain =>
      if !rest.isEmpty then
        some (arg ++ ": " ++ (if rest.length = arg.length then
          "expected numeric value" else "not completely converted"))
      else if outOfBounds then some (arg ++ ": " ++ range)
      else none
  | .extended =>
      if !rest.isEmpty then
        some (arg ++ ": " ++ (match arg.toList with
          | '0' :: c :: _ =>
              if c.isDigit then "invalid octal number"
              else if c = 'x' then "invalid hex number"
              else "invalid number"
          | _ => "invalid number"))
      else if outOfBounds then some ("warning: " ++ arg ++ ": " ++ range)
      else none

/-! ## Fields -/

/-- How a converted argument is set. -/
structure Layout where
  /-- To the left. -/
  left : Bool := false
  /-- With zeros in front. -/
  zeros : Bool := false
  /-- With a sign in any case. -/
  signed : Bool := false
  /-- With a blank where a sign could be. -/
  spaced : Bool := false
  /-- In another form. -/
  other : Bool := false
  /-- The least width. -/
  width : Nat := 0
  /-- The precision. -/
  precision : Option Nat := none
  deriving DecidableEq, Repr

/-- Set octets to a width. -/
def pad (l : Layout) (octets : List Char) : List Char :=
  let missing := List.replicate (l.width - octets.length) ' '
  if l.left then octets ++ missing else missing ++ octets

/-- Octets up to the precision. -/
def cut (l : Layout) (octets : List Char) : List Char :=
  match l.precision with
  | some n => octets.take n
  | none => octets

/-- The sign of a number. -/
def signOf (l : Layout) (negative : Bool) : List Char :=
  if negative then ['-']
  else if l.signed then ['+']
  else if l.spaced then [' ']
  else []

/-- Set a number to a width, with zeros between its sign and its digits if
    these are asked for. -/
def padNumber (l : Layout) (filled : Bool) (sign digits : List Char) :
    List Char :=
  let zeros :=
    if filled && l.zeros && !l.left then
      l.width - (sign.length + digits.length)
    else 0
  pad l (sign ++ List.replicate zeros '0' ++ digits)

/-- Set the digits of a whole number. -/
def setWhole (l : Layout) (sign digits : List Char) : List Char :=
  let least := l.precision.getD 1
  let digits := if digits = ['0'] then [] else digits
  let digits := List.replicate (least - digits.length) '0' ++ digits
  padNumber l l.precision.isNone sign digits

/-- Set a whole number without a sign in a form. -/
def setNatural (l : Layout) (letter : Char) (n : Nat) : List Char :=
  match letter with
  | 'o' =>
      let ds := Nat.toDigits 8 n
      let least :=
        if l.other && n != 0 then max (ds.length + 1) (l.precision.getD 1)
        else if l.other then max 1 (l.precision.getD 1)
        else l.precision.getD 1
      if l.other && n != 0 && l.precision.isNone then
        padNumber l true [] ('0' :: ds)
      else if l.precision.isNone then setWhole l [] ds
      else setWhole { l with precision := some least } [] ds
  | 'x' =>
      setWhole l (if l.other && n != 0 then "0x".toList else [])
        (Nat.toDigits 16 n)
  | 'X' =>
      setWhole l (if l.other && n != 0 then "0X".toList else [])
        ((Nat.toDigits 16 n).map Char.toUpper)
  | _ => setWhole l [] (Nat.toDigits 10 n)

/-! ## Times -/

/-- The names of the days of a week. -/
def dayNames : List String :=
  ["Sunday", "Monday", "Tuesday", "Wednesday", "Thursday", "Friday",
    "Saturday"]

/-- The names of the months. -/
def monthNames : List String :=
  ["January", "February", "March", "April", "May", "June", "July", "August",
    "September", "October", "November", "December"]

/-- A number with at least so many digits, with another character in front. -/
def filled (c : Char) (width n : Nat) : String :=
  let ds := Nat.toDigits 10 n
  String.ofList (List.replicate (width - ds.length) c ++ ds)

/-- What a letter stands for in the text of a time, given in seconds. -/
def timeField (seconds : Int) (letter : Char) : String :=
  let days := seconds.fdiv 86400
  let second := (seconds.fmod 86400).toNat
  let (year, month, day) := Timestamp.dateOf days
  let weekday := ((days + 4).fmod 7).toNat
  let yearDay := (days - Timestamp.dayNumber year 1 1).toNat
  let two (n : Nat) : String := filled '0' 2 n
  let hour := second / 3600
  let minute := second / 60 % 60
  let hour12 := if hour % 12 = 0 then 12 else hour % 12
  let dayName := dayNames.getD weekday ""
  let monthName := monthNames.getD (month - 1) ""
  let clock := two hour ++ ":" ++ two minute ++ ":" ++ two (second % 60)
  let half := if hour < 12 then "AM" else "PM"
  match letter with
  | 'Y' => toString year
  | 'C' => two (year.toNat / 100)
  | 'y' => two (year.toNat % 100)
  | 'm' => two month
  | 'd' => two day
  | 'e' => filled ' ' 2 day
  | 'H' => two hour
  | 'I' => two hour12
  | 'k' => filled ' ' 2 hour
  | 'l' => filled ' ' 2 hour12
  | 'M' => two minute
  | 'S' => two (second % 60)
  | 'j' => filled '0' 3 (yearDay + 1)
  | 'a' => (dayName.take 3).toString
  | 'A' => dayName
  | 'b' | 'h' => (monthName.take 3).toString
  | 'B' => monthName
  | 'p' => half
  | 'P' => half.toLower
  | 's' => toString seconds
  | 'u' => toString (if weekday = 0 then 7 else weekday)
  | 'w' => toString weekday
  | 'Z' => "UTC"
  | 'z' => "+0000"
  | 'D' | 'x' => two month ++ "/" ++ two day ++ "/" ++ two (year.toNat % 100)
  | 'F' => toString year ++ "-" ++ two month ++ "-" ++ two day
  | 'T' | 'X' => clock
  | 'R' => two hour ++ ":" ++ two minute
  | 'r' => two hour12 ++ ":" ++ two minute ++ ":" ++ two (second % 60) ++ " "
      ++ half
  | 'c' =>
      (dayName.take 3).toString ++ " " ++ (monthName.take 3).toString ++ " "
        ++ filled ' ' 2 day ++ " " ++ clock ++ " " ++ toString year
  | 'U' => two ((yearDay + 7 - weekday) / 7)
  | 'W' => two ((yearDay + 7 - (weekday + 6) % 7) / 7)
  | 'n' => "\n"
  | 't' => "\t"
  | '%' => "%"
  | c => String.ofList ['%', c]

/-- The text of a time in a format. -/
def timeText (seconds : Int) : List Char → String
  | '%' :: c :: rest => timeField seconds c ++ timeText seconds rest
  | c :: rest => String.singleton c ++ timeText seconds rest
  | [] => ""

/-! ## printf -/

/-- What a pass over a format does. -/
inductive Effect where
  /-- It prints octets. -/
  | prints (octets : List Char)
  /-- It complains. -/
  | complains (text : String)
  /-- It tells a parameter how much has been printed. -/
  | counts (name : String)
  deriving DecidableEq, Repr

/-- What a pass over a format has come to. -/
structure Pass where
  /-- What it does, in order. -/
  effects : List Effect := []
  /-- The arguments that are left. -/
  args : List String
  /-- Whether the pass has used an argument. -/
  used : Bool := false
  /-- Whether printing goes on. -/
  goesOn : Bool := true
  /-- The status, if something was wrong. -/
  status : Nat := 0

/-- Something before the rest of a pass. -/
def Pass.after (p : Pass) (effects : List Effect) (status : Nat) : Pass :=
  { p with effects := effects ++ p.effects, status := max status p.status }

/-- What a conversion comes to. -/
structure Converted where
  /-- What it does. -/
  effects : List Effect
  /-- Whether printing goes on. -/
  goesOn : Bool := true
  /-- The status, if something was wrong. -/
  status : Nat := 0

/-- What a conversion of a number comes to. -/
def numeric (d : Dialect) (fault : Option String) (octets : List Char) :
    Converted :=
  let bad :=
    match fault, d with
    | some t, .extended => !t.startsWith "warning"
    | some _, .plain => true
    | none, _ => false
  { effects := fault.toList.map .complains ++ [.prints octets]
    status := if bad then 1 else 0 }

/-- What a conversion comes to for an argument; nothing if there is no such
    conversion. -/
def convert? (d : Dialect) (e : Encoding) (l : Layout) (letter : Char)
    (arg? : Option String) : Option Converted :=
  let arg := arg?.getD ""
  let extended := d = .extended
  match letter with
  | 's' => some { effects := [.prints (pad l (cut l arg.toList))] }
  | 'b' =>
      let u := unescaped (.ofArgument d e) 0 arg.toList
      some
        { effects :=
            u.faults.map .complains ++ [.prints (pad l (cut l u.octets))]
          goesOn := u.goesOn }
  | 'c' =>
      let c := arg.toList.take 1
      some { effects := [.prints (pad l (if c.isEmpty then [Char.ofNat 0]
        else c))] }
  | 'q' | 'Q' =>
      if !extended then none
      else
        let quoted (s : String) : List Char :=
          (if l.other then
            (if Quote.needsEscapes e s then Quote.escaped e s
              else Quote.single s)
          else Quote.backslashed e s).toList
        let octets :=
          if letter = 'q' then cut l (quoted arg)
          else quoted (String.ofList (cut l arg.toList))
        some { effects := [.prints (pad l octets)] }
  | 'n' => if extended then some { effects := [.counts arg] } else none
  | 'd' | 'i' =>
      match quotedNumber? e arg with
      | some n =>
          some (numeric d none (setWhole l (signOf l false)
            (Nat.toDigits 10 n)))
      | none =>
          let w := whole arg.toList
          let (n, out) := w.signed
          let rest := if arg?.isNone then [] else w.rest
          some (numeric d (numberFault? d arg rest out)
            (setWhole l (signOf l (n < 0)) (Nat.toDigits 10 n.natAbs)))
  | 'u' | 'o' | 'x' | 'X' =>
      match quotedNumber? e arg with
      | some n => some (numeric d none (setNatural l letter n))
      | none =>
          let w := whole arg.toList
          let (n, out) := w.unsigned
          let rest := if arg?.isNone then [] else w.rest
          some (numeric d (numberFault? d arg rest out)
            (setNatural l letter n))
  | letter =>
      if !("eEfFgGaA".toList.contains letter) then none
      else
        let p := Precision.of d
        let r : Figure.Reading :=
          match quotedNumber? e arg with
          | some n => ⟨⟨false, (Figure.nearest p n 1).1⟩, false, []⟩
          | none => Figure.read p arg.toList
        let f := r.figure
        let finite :=
          match f.magnitude with
          | .finite _ _ => true
          | _ => false
        let cs := Figure.text p letter l.other l.precision f
        let sign := signOf l f.negative
        let octets :=
          match letter, cs with
          | 'a', '0' :: x :: more | 'A', '0' :: x :: more =>
              padNumber l finite (sign ++ ['0', x]) more
          | _, cs => padNumber l finite sign cs
        some (numeric d (numberFault? d arg r.rest r.outOfBounds) octets)

/-- Read the flags of a field. -/
def readFlags (d : Dialect) (l : Layout) : List Char → Layout × List Char
  | '-' :: rest => readFlags d { l with left := true } rest
  | '0' :: rest => readFlags d { l with zeros := true } rest
  | '+' :: rest => readFlags d { l with signed := true } rest
  | ' ' :: rest => readFlags d { l with spaced := true } rest
  | '#' :: rest => readFlags d { l with other := true } rest
  | '\'' :: rest =>
      if d = .extended then readFlags d l rest else (l, '\'' :: rest)
  | cs => (l, cs)

/-- A size in a field. -/
structure Size where
  /-- The size, if one is given. -/
  given : Option Int
  /-- What follows. -/
  rest : List Char
  /-- The arguments that are left. -/
  args : List String
  /-- What is wrong with an argument. -/
  fault : Option String := none

/-- Read a size, which an argument may give. -/
def readSize (d : Dialect) (cs : List Char) (args : List String) : Size :=
  match cs with
  | '*' :: rest =>
      let arg := args.headD ""
      let w := whole arg.toList
      let (n, out) := w.signed
      let left := if args.isEmpty then [] else w.rest
      { given := some n
        rest := rest
        args := args.tail
        fault := numberFault? d arg left out }
  | cs =>
      let digits := cs.takeWhile Char.isDigit
      { given := if digits.isEmpty then none
          else some (decimalValue digits : Int)
        rest := cs.drop digits.length
        args := args }

/-- The letters that may stand before the letter of a conversion. -/
def isModifier (d : Dialect) (c : Char) : Bool :=
  d = .extended && "hjlLtz".toList.contains c

/-- A pass that stops at something that is no conversion; `shown` is what it
    was. -/
def stopped (d : Dialect) (args : List String) (shown : List Char)
    (letter : Option Char) : Pass :=
  let text :=
    match d, letter with
    | .plain, some _ => String.ofList shown ++ ": invalid directive"
    | .plain, none => "missing format character"
    | .extended, some c =>
        "\x60" ++ String.singleton c ++ "': invalid format character"
    | .extended, none =>
        "\x60" ++ String.ofList shown ++ "': missing format character"
  { args := args
    goesOn := false
    effects := [.complains text]
    status :=
      match d with
      | .plain => 2
      | .extended => 1 }

/-- The format of a time in parentheses, and what follows it. -/
def timeFormat? (cs : List Char) : Option (List Char × List Char) :=
  match cs with
  | '(' :: rest =>
      let format := rest.takeWhile (fun c => c != ')')
      match rest.drop format.length with
      | ')' :: 'T' :: after => some (format, after)
      | _ => none
  | _ => none

/-- Go once over a format.  A missing argument counts as empty. -/
def pass (d : Dialect) (e : Encoding) :
    Nat → List Char → List String → Pass
  | 0, _, args => { args := args }
  | _ + 1, [], args => { args := args }
  | fuel + 1, c :: rest, args =>
      match c, rest with
      | '%', '%' :: rest =>
          (pass d e fuel rest args).after [.prints ['%']] 0
      | '%', rest =>
          let (l, cs) := readFlags d {} rest
          let width := readSize d cs args
          let w := width.given.getD 0
          let l := { l with left := l.left || w < 0, width := w.natAbs }
          let precision :=
            match width.rest with
            | '.' :: cs =>
                let p := readSize d cs width.args
                { p with given := some (p.given.getD 0) }
            | cs => { given := none, rest := cs, args := width.args }
          let l :=
            { l with
              precision := precision.given.bind (fun n =>
                if n < 0 then none else some n.toNat) }
          let cs := precision.rest.dropWhile (isModifier d)
          let args := precision.args
          let faults :=
            (width.fault.toList ++ precision.fault.toList).map .complains
          let status := if faults.isEmpty then 0 else 1
          match cs with
          | [] => (stopped d args ('%' :: rest) none).after faults status
          | letter :: after =>
              let time :=
                if d = .extended then timeFormat? cs else none
              match time with
              | some (format, after) =>
                  let seconds := (whole (args.headD "").toList).signed.1
                  let text := timeText seconds format
                  let text := if 128 ≤ text.length then "" else text
                  { (pass d e fuel after args.tail).after
                      (faults ++ [.prints (pad l (cut l text.toList))])
                      status with
                    used := true }
              | none =>
                  match convert? d e l letter args.head? with
                  | none =>
                      let size := rest.length - after.length
                      (stopped d args ('%' :: rest.take size)
                        (some letter)).after faults status
                  | some v =>
                      let p :=
                        if v.goesOn then pass d e fuel after args.tail
                        else { args := args.tail, goesOn := false }
                      { p.after (faults ++ v.effects)
                          (max status v.status) with
                        used := true }
      | '\\', rest =>
          match escape (.ofFormat d e) rest with
          | .prints octets taken fault =>
              (pass d e fuel (rest.drop taken) args).after
                (fault.toList.map .complains ++ [.prints octets]) 0
          | .stops => { args := args, goesOn := false }
          | .none fault =>
              (pass d e fuel rest args).after
                (fault.toList.map .complains ++ [.prints ['\\']]) 0
      | c, rest =>
          let plain :=
            (c :: rest).takeWhile (fun c => c != '%' && c != '\\')
          (pass d e fuel ((c :: rest).drop plain.length) args).after
            [.prints plain] 0

/-- Go over a format as long as there are arguments that it uses. -/
def passes (d : Dialect) (e : Encoding) (format : List Char) :
    Nat → List String → Pass
  | 0, args => { args := args }
  | fuel + 1, args =>
      let p := pass d e (format.length + 1) format args
      if p.goesOn && p.used && !p.args.isEmpty then
        (passes d e format fuel p.args).after p.effects p.status
      else p

/-- What `printf` does with a format and arguments. -/
def printf (d : Dialect) (e : Encoding) (format : String)
    (args : List String) : Pass :=
  passes d e format.toList (args.length + 1) args

end Printing
end NodeFlow.Shell
