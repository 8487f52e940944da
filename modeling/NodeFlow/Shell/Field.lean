import NodeFlow.Shell.Parameters
import NodeFlow.Shell.Pattern

/-! # Fields

    An expanded word is split into fields at separators that come out of
    expansions.  What was quoted is never split, and leaves a field even when
    it is empty. -/

namespace NodeFlow.Shell

/-- A piece of an expanded word. -/
inductive Atom where
  /-- A character that was quoted. -/
  | keep (c : Char)
  /-- A character that was written without quotes. -/
  | bare (c : Char)
  /-- A character that comes out of an expansion without quotes. -/
  | soft (c : Char)
  /-- There is a field here, even an empty one. -/
  | quote
  /-- One field ends here, in the way of a character that comes out of an
      expansion if there is one that `parts`.  In one text a character may
      stand here. -/
  | boundary (shown parts : Option Char)
  deriving DecidableEq, Repr

/-- A character of a field and whether it was quoted. -/
abbrev Letter : Type := Char × Bool

namespace Atom

/-- Whether a separator can stand beside others without fields between
    them. -/
def mayRepeat (c : Char) : Bool := c = ' ' || c = '\t' || c = '\n'

/-- The fields of atoms, each with its last letter first.  `current` is the
    field that has begun; `spaced` says that the last field has ended at a
    space, which together with a separator of another kind is one end. -/
def fieldsFrom (separators : List Char) (spaced : Bool)
    (current : Option (List Letter)) (done : List (List Letter)) :
    List Atom → List (List Letter)
  | [] => (current.toList ++ done).reverse
  | .keep c :: rest =>
      fieldsFrom separators false (some ((c, true) :: current.getD [])) done
        rest
  | .bare c :: rest =>
      fieldsFrom separators false (some ((c, false) :: current.getD [])) done
        rest
  | .quote :: rest =>
      fieldsFrom separators false (some (current.getD [])) done rest
  | .boundary _ none :: rest =>
      fieldsFrom separators (spaced || current.isSome) none
        (current.toList ++ done) rest
  | .boundary _ (some c) :: rest | .soft c :: rest =>
      if separators.contains c then
        if mayRepeat c then
          fieldsFrom separators (spaced || current.isSome) none
            (current.toList ++ done) rest
        else if spaced then fieldsFrom separators false none done rest
        else
          fieldsFrom separators false none (current.getD [] :: done) rest
      else
        fieldsFrom separators false (some ((c, false) :: current.getD [])) done
          rest

/-- The fields of atoms. -/
def fields (separators : List Char) (atoms : List Atom) :
    List (List Letter) :=
  (fieldsFrom separators false none [] atoms).map List.reverse

/-- The letters of atoms as one field. -/
def letters (atoms : List Atom) : List Letter :=
  atoms.filterMap (fun a =>
    match a with
    | .keep c => some (c, true)
    | .bare c | .soft c => some (c, false)
    | .quote => none
    | .boundary shown _ => shown.map (fun c => (c, true)))

/-- The characters of atoms as one text. -/
def joined (atoms : List Atom) : String :=
  String.ofList ((letters atoms).map (·.1))

/-- The atoms of a value. -/
def ofText (value : String) (quoted : Bool) : List Atom :=
  if quoted then .quote :: value.toList.map .keep
  else value.toList.map .soft

/-- The atoms of values with an atom between them. -/
def ofTexts (quoted : Bool) (between : Atom) : List String → List Atom
  | [] => []
  | [v] => ofText v quoted
  | v :: rest => ofText v quoted ++ between :: ofTexts quoted between rest

end Atom

/-- The text of letters. -/
def textOfLetters (letters : List Letter) : String :=
  String.ofList (letters.map (·.1))

/-- The marks of a pattern that letters write: the octets of one glyph become
    one mark. -/
def marksOf (e : Encoding) (letters : List Letter) : List Pattern.Mark :=
  let rec go : List Letter → List (List Char) → List Pattern.Mark
    | _, [] => []
    | ls, g :: more =>
        (g, (ls.head?.map (·.2)).getD false) :: go (ls.drop g.length) more
  go letters (Octets.glyphs e (letters.map (·.1)))

/-! ## Paths that match -/

/-- A text in octets before another one. -/
def before (a b : String) : Bool := decide (a ≤ b)

/-- The names of what a directory holds, in order. -/
def namesIn (files : FileTree) (way : FileTree.Way) : List String :=
  let path := if way.isEmpty then "." else FileTree.pathOf way
  let all := ((files.list path).toOption.getD []).map Octets.ofText
  all.mergeSort before

/-- Whether marks begin with a dot. -/
def startsWithDot (marks : List Pattern.Mark) : Bool :=
  match marks with
  | m :: _ => m.1 == ['.']
  | [] => false

/-- What decides which paths match. -/
structure GlobRules where
  /-- The family of the shell. -/
  dialect : Dialect
  /-- What makes a glyph. -/
  encoding : Encoding
  /-- Whether signs before parentheses make patterns. -/
  grouped : Bool
  /-- Whether names that begin with a dot match anything. -/
  dots : Bool
  /-- Whether case does not count. -/
  folds : Bool

/-- The ends of paths that match parts of a pattern, from a directory on;
    each part is given by its letters. -/
def matchesFrom (g : GlobRules) (files : FileTree) :
    FileTree.Way → List (List Letter) → List (List String)
  | _, [] => [[]]
  | way, part :: rest =>
      let marks := marksOf g.encoding part
      let text := textOfLetters part
      let go (name : String) : List (List String) :=
        let way' :=
          if name = "." || name.isEmpty then way
          else if name = ".." then way.dropLast
          else way ++ [Octets.toText name]
        match files.entry? way', rest with
        | none, _ => []
        | some _, [] => [[name]]
        | some .directory, rest =>
            (matchesFrom g files way' rest).map (fun p => name :: p)
        | some _, _ => []
      if Pattern.isWild g.grouped marks then
        let p := Pattern.ofMarks g.grouped marks
        let names := namesIn files way
        let names :=
          if startsWithDot marks && g.dialect = .plain then
            [".", ".."] ++ names
          else names
        let found := names.filter (fun n =>
          (startsWithDot marks || g.dots || !n.startsWith ".")
            && p.fits g.folds (Octets.glyphs g.encoding n.toList))
        found.flatMap go
      else go text

/-- The letters between slashes. -/
def splitAtSlashes : List Letter → List (List Letter)
  | [] => [[]]
  | l :: rest =>
      let more := splitAtSlashes rest
      if l.1 = '/' then [] :: more
      else
        match more with
        | [] => [[l]]
        | p :: ps => (l :: p) :: ps

/-- Letters without the backslashes that quote the letter behind them. -/
def unescapedLetters : List Letter → List Letter
  | [] => []
  | [l] => [l]
  | l :: m :: rest =>
      if l = ('\\', false) then (m.1, true) :: unescapedLetters rest
      else l :: unescapedLetters (m :: rest)

/-- The paths that letters match as a pattern, if they write one. -/
def paths (g : GlobRules) (files : FileTree) (location : Location)
    (letters : List Letter) : List String :=
  match location, letters with
  | .inside way, (c, _) :: _ =>
      if c = '/' then []
      else
        let found :=
          matchesFrom g files way (splitAtSlashes (unescapedLetters letters))
        (found.map (fun p => "/".intercalate p)).mergeSort before
  | _, _ => []

end NodeFlow.Shell
