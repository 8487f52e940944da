/-! # Families of shells

    There are two families of shells: a plain one, and one with more
    features.  They differ in what they understand and in their words. -/

namespace NodeFlow.Shell

/-- Which of the two families of shells a shell belongs to. -/
inductive Dialect where
  /-- The plain one. -/
  | plain
  /-- The one with more features. -/
  | extended
  deriving DecidableEq, Repr, Inhabited

/-- The commands that are found before functions in the plain family; when one
    of them is used wrongly, the shell ends. -/
def specialNames : List String :=
  [".", ":", "break", "continue", "eval", "exec", "exit", "export", "local",
    "readonly", "return", "set", "shift", "times", "trap", "unset"]

/-- The base name of a program in one of the usual directories. -/
def baseName (program : String) : String :=
  match program.splitOn "/" with
  | ["", "bin", name] | ["", "usr", "bin", name] => name
  | _ => program

/-- The family of the shell of a name. -/
def dialectOf? : String → Option Dialect
  | "sh" | "dash" => some .plain
  | "bash" => some .extended
  | _ => none

end NodeFlow.Shell
