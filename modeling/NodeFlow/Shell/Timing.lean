import NodeFlow.Shell.Parameters

/-! # Times

    A command may be followed by the times that it has taken, in a format.
    Here every command takes no time at all. -/

namespace NodeFlow.Shell

namespace Timing

/-- No time, with so many places behind the point; with its minutes, if
    `long`. -/
def zero (places : Nat) (long : Bool) : String :=
  let seconds :=
    if places = 0 then "0"
    else "0." ++ String.ofList (List.replicate places '0')
  if long then "0m" ++ seconds ++ "s" else seconds

/-- A time in a format, after the sign that begins it: whether the minutes are
    asked for, and which time it is. -/
def directive (places : Nat) : List Char → Except Char (String × List Char)
  | 'l' :: c :: rest => which places true c rest
  | c :: rest => which places false c rest
  | [] => .error (Char.ofNat 0)
where
  /-- A time by its letter. -/
  which (places : Nat) (long : Bool) (c : Char) (rest : List Char) :
      Except Char (String × List Char) :=
    if ['R', 'E', 'U', 'S'].contains c then .ok (zero places long, rest)
    else .error c

/-- Times in a format, or the letter in it that stands for none; fuel bounds
    the characters. -/
def shown : Nat → List Char → Except Char String
  | 0, _ => .ok ""
  | _ + 1, [] => .ok ""
  | _ + 1, ['%'] => .ok "%"
  | fuel + 1, '%' :: '%' :: rest => do return "%" ++ (← shown fuel rest)
  | fuel + 1, '%' :: 'P' :: rest => do return "0.00" ++ (← shown fuel rest)
  | fuel + 1, '%' :: c :: rest => do
      let (text, rest) ←
        if c.isDigit then directive (min 3 (c.toNat - '0'.toNat)) rest
        else directive 3 (c :: rest)
      return text ++ (← shown fuel rest)
  | fuel + 1, c :: rest => do return c.toString ++ (← shown fuel rest)

/-- The format of times; in the usual one if `usual`. -/
def format (s : Session) (usual : Bool) : String :=
  if usual then "real %2R\nuser %2U\nsys %2S"
  else (s.text? "TIMEFORMAT").getD "\nreal\t%3lR\nuser\t%3lU\nsys\t%3lS"

/-- Print the times of a command. -/
def tell (usual : Bool) : Act Unit := do
  let cs := (format (← session) usual).toList
  unless cs.isEmpty do
    match shown (cs.length + 1) cs with
    | .ok text => sayLine text
    | .error c =>
        complain ("TIMEFORMAT: \x60" ++ c.toString
          ++ "': invalid format character")

end Timing
end NodeFlow.Shell
