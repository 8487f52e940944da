import NodeFlow.Json.Basic
import NodeFlow.Number.Shortest

/-! # Printing JSON

    The compact form has no blanks at all.  The indented form puts every
    item and member on a line of its own, two blanks deeper than its
    container, and writes an empty container on one line.

    Inside quotes a JSON text writes the quote, the backslash and the control
    characters below `U+0020` as escapes, five of the latter with a letter
    and the others as four lower-case hexadecimal digits.  Every other
    character stands for itself. -/

namespace NodeFlow

/-- A real number in JSON is positional while the point stands at most four
    places left and sixteen places right of the first digit; a whole value
    is marked by `.0`, and zero keeps its sign. -/
def Number.layout : Shortest.Layout := ⟨4, 16, true, true⟩

/-- The text of a number. -/
def Number.text : Number → String
  | .whole n => toString n
  | .real x => Shortest.render Number.layout x

namespace Json

/-- The lower-case hexadecimal digit of a number below sixteen. -/
def hexDigit (n : Nat) : Char :=
  if n < 10 then Char.ofNat (0x30 + n) else Char.ofNat (0x57 + n)

/-- A code unit as an escape of four hexadecimal digits. -/
def unitEscape (n : Nat) : List Char :=
  ['\\', 'u', hexDigit (n / 4096 % 16), hexDigit (n / 256 % 16),
    hexDigit (n / 16 % 16), hexDigit (n % 16)]

/-- How a character is written between quotes. -/
def escapeChar (c : Char) : List Char :=
  if c = '"' then ['\\', '"']
  else if c = '\\' then ['\\', '\\']
  else if c = '\n' then ['\\', 'n']
  else if c = '\r' then ['\\', 'r']
  else if c = '\t' then ['\\', 't']
  else if c.toNat = 0x08 then ['\\', 'b']
  else if c.toNat = 0x0C then ['\\', 'f']
  else if c.toNat < 0x20 then unitEscape c.toNat
  else [c]

/-- A text between quotes. -/
def quoted (s : String) : String :=
  String.ofList ('"' :: (s.toList.flatMap escapeChar ++ ['"']))

mutual

/-- The compact form of a value. -/
def compact : Json → String
  | .null => "null"
  | .bool b => if b then "true" else "false"
  | .number n => n.text
  | .str s => quoted s
  | .arr items => "[" ++ compactItems items ++ "]"
  | .obj members => "\x7b" ++ compactMembers members ++ "\x7d"

/-- Items separated by commas. -/
def compactItems : List Json → String
  | [] => ""
  | [v] => compact v
  | v :: w :: rest => compact v ++ "," ++ compactItems (w :: rest)

/-- Members separated by commas. -/
def compactMembers : List (String × Json) → String
  | [] => ""
  | [(k, v)] => quoted k ++ ":" ++ compact v
  | (k, v) :: m :: rest =>
      quoted k ++ ":" ++ compact v ++ "," ++ compactMembers (m :: rest)

end

/-- A new line, indented `depth` steps. -/
def newLine (depth : Nat) : String :=
  String.ofList ('\n' :: List.replicate (2 * depth) ' ')

mutual

/-- The indented form of a value that stands `depth` steps deep. -/
def indentedAt (depth : Nat) : Json → String
  | .null => "null"
  | .bool b => if b then "true" else "false"
  | .number n => n.text
  | .str s => quoted s
  | .arr [] => "[]"
  | .arr (v :: rest) =>
      "[" ++ indentedItems (depth + 1) (v :: rest) ++ newLine depth ++ "]"
  | .obj [] => "\x7b\x7d"
  | .obj (m :: rest) =>
      "\x7b" ++ indentedMembers (depth + 1) (m :: rest) ++ newLine depth
        ++ "\x7d"

/-- Items on lines of their own. -/
def indentedItems (depth : Nat) : List Json → String
  | [] => ""
  | [v] => newLine depth ++ indentedAt depth v
  | v :: w :: rest =>
      newLine depth ++ indentedAt depth v ++ ","
        ++ indentedItems depth (w :: rest)

/-- Members on lines of their own. -/
def indentedMembers (depth : Nat) : List (String × Json) → String
  | [] => ""
  | [(k, v)] => newLine depth ++ quoted k ++ ": " ++ indentedAt depth v
  | (k, v) :: m :: rest =>
      newLine depth ++ quoted k ++ ": " ++ indentedAt depth v ++ ","
        ++ indentedMembers depth (m :: rest)

end

/-- The indented form of a value. -/
def indented (v : Json) : String := indentedAt 0 v

end Json
end NodeFlow
