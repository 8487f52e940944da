import NodeFlow.Text.Blank

/-! # Modes

    The editor shows one of three sides of a node. -/

namespace NodeFlow

/-- What the editor shows of a node. -/
inductive Mode where
  /-- Title and ports. -/
  | outline
  /-- The code. -/
  | code
  /-- The description. -/
  | description
  deriving DecidableEq, Repr, Inhabited

namespace Mode

/-- The name of a mode. -/
def name : Mode → String
  | .outline => "structure"
  | .code => "code"
  | .description => "description"

/-- Every mode. -/
def all : List Mode := [.outline, .code, .description]

/-- The mode of a name: blanks around it and the case of ASCII letters do
    not count. -/
def ofText? (s : String) : Option Mode :=
  let word := (Text.trimChars s.toList).map Char.toLower
  all.find? (fun m => m.name.toList == word)

/-- What is said of a text that names no mode. -/
def unknownMessage (s : String) : String :=
  "unknown editor mode '" ++ s ++ "' (structure, code, description)"

end Mode
end NodeFlow
