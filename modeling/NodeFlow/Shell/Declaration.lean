import NodeFlow.Shell.Quote
import NodeFlow.Shell.Variable

/-! # Parameters as they are shown

    A shell shows its parameters as commands that would set them again. -/

namespace NodeFlow.Shell

namespace Declaration

/-- A value between double quotes, or with escapes. -/
def value (e : Encoding) (s : String) : String :=
  if Quote.needsEscapes e s then Quote.escaped e s else Quote.double s

/-- A key of a table. -/
def key (e : Encoding) (s : String) : String :=
  if Quote.needsEscapes e s then Quote.escaped e s
  else if s.isEmpty || s = "@" || s = "*" || Quote.hasMeaning s then
    Quote.double s
  else s

/-- The items of a list or a table between parentheses. -/
def items? (e : Encoding) : Content → Option String
  | .list items =>
      some ("(" ++ " ".intercalate (items.map (fun (i, s) =>
        "[" ++ toString i ++ "]=" ++ value e s)) ++ ")")
  | .table entries =>
      some ("(" ++ String.join (entries.map (fun (k, s) =>
        "[" ++ key e k ++ "]=" ++ value e s ++ " ")) ++ ")")
  | _ => none

/-- A declaration of a parameter with its traits. -/
def full (e : Encoding) (name : String) (v : Variable) : String :=
  let letters := if v.letters.isEmpty then "-" else v.letters
  let given :=
    match v.content, v.bare with
    | .nothing, _ | _, true => name
    | .text s, _ => name ++ "=" ++ value e s
    | c, _ => name ++ "=" ++ (items? e c).getD ""
  "declare -" ++ letters ++ " " ++ given

/-- An assignment of a text, as a declaration if the parameter has traits. -/
def assignmentOf (e : Encoding) (name : String) (v : Variable)
    (text : Option String) : String :=
  let given :=
    match text with
    | some s => name ++ "=" ++ Quote.reusable e s
    | none => name
  if v.letters.isEmpty then given
  else "declare -" ++ v.letters ++ " " ++ given

/-- An assignment to a parameter, as a declaration if it has traits. -/
def assignment (e : Encoding) (name : String) (v : Variable) : String :=
  match v.bare, items? e v.content with
  | false, some all =>
      "declare -" ++ v.letters ++ " " ++ name ++ "=" ++ all
  | _, _ => assignmentOf e name v v.content.text?

/-- A parameter in the list of all of them, if it has a value. -/
def listed? (d : Dialect) (e : Encoding) (name : String) (v : Variable) :
    Option String :=
  match d, v.content with
  | .plain, c => c.text?.map (fun s => name ++ "=" ++ Quote.plainSingle s)
  | .extended, .nothing => none
  | .extended, .text s =>
      some (name ++ "=" ++ Quote.listed e s)
  | .extended, c =>
      if v.bare then none else some (name ++ "=" ++ (items? e c).getD "")

end Declaration
end NodeFlow.Shell
