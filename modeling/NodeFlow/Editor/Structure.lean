import NodeFlow.Port
import NodeFlow.Text.Blank
import NodeFlow.Text.Lines

/-! # Structure text

    Title and ports of a node as a short text:

        title: Adder
        inputs:
          - a (number)
          - b (number)
        outputs:
          - sum (number)

    Each line is read by itself first (`Line.ofChars`), and a reader that
    knows what came before takes the lines one by one (`Draft.line`).  Blank
    lines count as lines and mean nothing. -/

namespace NodeFlow

/-- Title and ports of a node. -/
structure Structure where
  /-- The title. -/
  title : String
  /-- The inputs. -/
  inputs : List Port
  /-- The outputs. -/
  outputs : List Port
  deriving DecidableEq, Repr, Inhabited

/-- One of the two lists of ports. -/
inductive Section where
  /-- The inputs. -/
  | inputs
  /-- The outputs. -/
  | outputs
  deriving DecidableEq, Repr

/-- The word that starts a list of ports. -/
def Section.word : Section → String
  | .inputs => "inputs"
  | .outputs => "outputs"

/-- Why a text is no structure text.  Lines count from one. -/
inductive StructureError where
  /-- No line gives the title. -/
  | missingTitle
  /-- A title or header occurs again. -/
  | duplicateHeader (line : Nat) (key : String)
  /-- A port comes before any header. -/
  | itemOutsideSection (line : Nat)
  /-- A port is not written as one. -/
  | malformedItem (line : Nat)
  /-- A port has the name of an earlier one in its list. -/
  | duplicatePort (line : Nat) (name : String)
  /-- A line is none of those known. -/
  | unexpectedLine (line : Nat)
  deriving DecidableEq, Repr

namespace StructureError

/-- The line that an error refers to; a missing title counts as line 1. -/
def line : StructureError → Nat
  | .missingTitle => 1
  | .duplicateHeader n _ | .itemOutsideSection n | .malformedItem n
  | .duplicatePort n _ | .unexpectedLine n => n

/-- The wording of an error. -/
def message : StructureError → String
  | .missingTitle => "missing 'title:' line"
  | .duplicateHeader n key =>
      "line " ++ toString n ++ ": duplicate '" ++ key ++ "'"
  | .itemOutsideSection n =>
      "line " ++ toString n
        ++ ": port listed before 'inputs:' or 'outputs:'"
  | .malformedItem n =>
      "line " ++ toString n ++ ": expected '  - name (type)'"
  | .duplicatePort n name =>
      "line " ++ toString n ++ ": duplicate port name '" ++ name ++ "'"
  | .unexpectedLine n => "line " ++ toString n ++ ": unexpected text"

end StructureError

namespace Structure

/-! ## Writing -/

/-- A port as a line. -/
def itemLine (p : Port) : String :=
  "  - " ++ p.name ++ " (" ++ p.type ++ ")"

/-- The lines of a structure text. -/
def renderLines (s : Structure) : List String :=
  ["title: " ++ s.title, "inputs:"] ++ s.inputs.map itemLine
    ++ ["outputs:"] ++ s.outputs.map itemLine

/-- The structure text. -/
def render (s : Structure) : String := "\n".intercalate s.renderLines

/-! ## Reading one line -/

/-- What a line says by itself. -/
inductive Line where
  /-- Nothing. -/
  | blank
  /-- The title. -/
  | title (text : String)
  /-- A list of ports starts. -/
  | header (which : Section)
  /-- A port; nothing when it is not written as one. -/
  | item (port : Option Port)
  /-- None of these. -/
  | other
  deriving DecidableEq, Repr

/-- What follows a given beginning. -/
def afterStart? (start : List Char) (cs : List Char) : Option (List Char) :=
  match start, cs with
  | [], cs => some cs
  | _ :: _, [] => none
  | a :: start, c :: cs => if a = c then afterStart? start cs else none

/-- Split at the first blank followed by an opening parenthesis. -/
def splitOpen : List Char → Option (List Char × List Char)
  | [] => none
  | [_] => none
  | a :: b :: rest =>
      if a = ' ' && b = '(' then some ([], rest)
      else (splitOpen (b :: rest)).map (fun (n, t) => (a :: n, t))

/-- What stands before a closing parenthesis at the end. -/
def beforeClose? (cs : List Char) : Option (List Char) :=
  if cs.getLast? = some ')' then some cs.dropLast else none

/-- The port that a line names after its dash: the type runs from the first
    opening parenthesis after a blank to the closing one at the end. -/
def portOf? (cs : List Char) : Option Port := do
  let body ← beforeClose? (Text.trimChars cs)
  let (name, type) ← splitOpen body
  let name := Text.trimChars name
  let type := Text.trimChars type
  if name.isEmpty || type.isEmpty then none
  else some ⟨String.ofList name, String.ofList type, none⟩

/-- What a line says, blanks at its end put aside. -/
def Line.ofChars (raw : List Char) : Line :=
  let cs := Text.trimEndChars raw
  if cs.isEmpty then .blank
  else
    match afterStart? "title:".toList cs with
    | some rest => .title (String.ofList (Text.trimChars rest))
    | none =>
        if cs = "inputs:".toList then .header .inputs
        else if cs = "outputs:".toList then .header .outputs
        else
          match afterStart? "  - ".toList cs with
          | some rest => .item (portOf? rest)
          | none => .other

/-! ## Reading all lines -/

/-- What the lines so far have said. -/
structure Draft where
  /-- The title. -/
  title : Option String := none
  /-- The list that ports go to. -/
  current : Option Section := none
  /-- The lists that have started. -/
  started : List Section := []
  /-- The inputs, last first. -/
  inputs : List Port := []
  /-- The outputs, last first. -/
  outputs : List Port := []
  deriving DecidableEq, Repr

namespace Draft

/-- The ports of a list so far. -/
def ports (d : Draft) : Section → List Port
  | .inputs => d.inputs
  | .outputs => d.outputs

/-- Add a port to a list. -/
def addPort (d : Draft) (which : Section) (p : Port) : Draft :=
  match which with
  | .inputs => { d with inputs := p :: d.inputs }
  | .outputs => { d with outputs := p :: d.outputs }

/-- Take in the line with number `n`. -/
def line (d : Draft) (n : Nat) : Line → Except StructureError Draft
  | .blank => .ok d
  | .title text =>
      match d.title with
      | some _ => .error (.duplicateHeader n "title")
      | none => .ok { d with title := some text }
  | .header which =>
      if d.started.contains which then
        .error (.duplicateHeader n which.word)
      else
        .ok { d with started := which :: d.started, current := some which }
  | .item port =>
      match d.current, port with
      | none, _ => .error (.itemOutsideSection n)
      | some _, none => .error (.malformedItem n)
      | some which, some p =>
          if (d.ports which).any (fun q => q.name == p.name) then
            .error (.duplicatePort n p.name)
          else .ok (d.addPort which p)
  | .other => .error (.unexpectedLine n)

/-- Take in lines, the first of which has number `n`. -/
def lines (d : Draft) (n : Nat) : List Line → Except StructureError Draft
  | [] => .ok d
  | l :: rest =>
      match d.line n l with
      | .ok d' => d'.lines (n + 1) rest
      | .error e => .error e

/-- The structure, once there are no more lines. -/
def finish (d : Draft) : Except StructureError Structure :=
  match d.title with
  | some title => .ok ⟨title, d.inputs.reverse, d.outputs.reverse⟩
  | none => .error .missingTitle

end Draft

/-- Read a structure text. -/
def parse (text : String) : Except StructureError Structure :=
  match ({} : Draft).lines 1
      ((Text.charLines text.toList).map Line.ofChars) with
  | .ok d => d.finish
  | .error e => .error e

end Structure
end NodeFlow
