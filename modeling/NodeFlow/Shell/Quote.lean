import NodeFlow.Shell.Octets

/-! # Quoted values

    A shell shows values so that it could read them again: between single
    quotes, with backslashes, or between a dollar sign with quotes and escapes
    for what cannot be printed. -/

namespace NodeFlow.Shell

namespace Quote

/-- A text between single quotes; a single quote stands outside of them. -/
def single (s : String) : String :=
  if s = "'" then "\\'"
  else
    "'" ++ String.ofList (s.toList.flatMap (fun c =>
      if c = '\'' then "'\\''".toList else [c])) ++ "'"

/-- A text between double quotes. -/
def double (s : String) : String :=
  "\"" ++ String.ofList (s.toList.flatMap (fun c =>
    if c = '"' || c = '$' || c = '\x60' || c = '\\' then ['\\', c] else [c]))
    ++ "\""

/-- Three octal digits. -/
def octal (n : Nat) : List Char :=
  [Char.ofNat (48 + n / 64 % 8), Char.ofNat (48 + n / 8 % 8),
    Char.ofNat (48 + n % 8)]

/-- Whether a glyph can be printed. -/
def prints (g : List Char) : Bool :=
  match g with
  | [c] => 0x20 ≤ c.toNat && c.toNat < 0x7F
  | _ => true

/-- A glyph with an escape where it cannot be printed. -/
def escapedGlyph (g : List Char) : List Char :=
  match g with
  | [c] =>
      match c.toNat with
      | 7 => "\\a".toList
      | 8 => "\\b".toList
      | 9 => "\\t".toList
      | 10 => "\\n".toList
      | 11 => "\\v".toList
      | 12 => "\\f".toList
      | 13 => "\\r".toList
      | 27 => "\\E".toList
      | n =>
          if c = '\\' || c = '\'' then ['\\', c]
          else if prints g then [c]
          else '\\' :: octal n
  | g => g

/-- Whether a text has something that cannot be printed. -/
def needsEscapes (e : Encoding) (s : String) : Bool :=
  (Octets.glyphs e s.toList).any (fun g => !prints g)

/-- A text between a dollar sign with quotes. -/
def escaped (e : Encoding) (s : String) : String :=
  "$'" ++ String.ofList ((Octets.glyphs e s.toList).flatMap escapedGlyph)
    ++ "'"

/-- A text that can be read again. -/
def reusable (e : Encoding) (s : String) : String :=
  if s.isEmpty then "''"
  else if needsEscapes e s then escaped e s
  else single s

/-- Whether a character has a meaning of its own, at the beginning if
    `first`. -/
def isMeaningful (first : Bool) (c : Char) : Bool :=
  " \t\n'\"\\|&;()<>!\x7b\x7d*[]?^$\x60".toList.contains c
    || (first && (c = '#' || c = '~'))

/-- Whether a text has a character with a meaning of its own. -/
def hasMeaning (s : String) : Bool :=
  s.toList.zipIdx.any (fun (c, i) => isMeaningful (i = 0) c)
    || (s.splitOn "=~").length > 1 || (s.splitOn ":~").length > 1

/-- A text with a backslash in front of each character that has a meaning of
    its own. -/
def backslashed (e : Encoding) (s : String) : String :=
  if s.isEmpty then "''"
  else if needsEscapes e s then escaped e s
  else
    let cs := s.toList
    let behind := '\n' :: cs
    String.ofList ((behind.zip cs).zipIdx.flatMap (fun ((before, c), i) =>
      if " \t'\"\\|&;()<>!\x7b\x7d*[]?^$\x60,".toList.contains c
          || (c = '#' && i = 0)
          || (c = '~' && (i = 0 || before = ':' || before = '=')) then
        ['\\', c]
      else if c = '\n' then "$'\\n'".toList
      else [c]))

/-- A value as it is shown in a list of parameters. -/
def listed (e : Encoding) (s : String) : String :=
  if s.isEmpty then ""
  else if needsEscapes e s then escaped e s
  else if hasMeaning s then single s
  else s

/-- A value as it is shown for a command that is traced. -/
def traced (e : Encoding) (s : String) : String :=
  if s.isEmpty then "''"
  else if hasMeaning s then single s
  else if needsEscapes e s then escaped e s
  else s

/-- A text between single quotes in the way of the plain family, which shows
    single quotes between double ones; fuel bounds the number of its
    parts. -/
def plainParts : Nat → List Char → String
  | 0, _ => ""
  | fuel + 1, cs =>
      let run := cs.takeWhile (fun d => d != '\'')
      let rest := cs.drop run.length
      let quotes := rest.takeWhile (fun d => d = '\'')
      let after := rest.drop quotes.length
      (if run.isEmpty then "" else "'" ++ String.ofList run ++ "'")
        ++ (if quotes.isEmpty then ""
          else "\"" ++ String.ofList quotes ++ "\"")
        ++ (if after.isEmpty then "" else plainParts fuel after)

/-- A text between single quotes in the way of the plain family. -/
def plainSingle (s : String) : String :=
  if s.isEmpty then "''" else plainParts (s.length + 1) s.toList

end Quote
end NodeFlow.Shell
