/-! # Text surfaces

    A surface is a text widget: it holds a text and the language the text is
    shown in, and reports every change of the text to its listener, whoever
    made it. -/

namespace NodeFlow

/-- A text widget. -/
structure Surface where
  /-- The text. -/
  text : String := ""
  /-- The language that the text is shown in. -/
  language : String := ""
  /-- How often a program has replaced the text. -/
  writes : Nat := 0
  /-- How much one change adds to what the listener has heard; zero as long
      as nobody listens. -/
  weight : Nat := 0
  /-- What the listener has heard. -/
  heard : Nat := 0
  deriving DecidableEq, Repr, Inhabited

namespace Surface

/-- Let a listener hear every change with a weight, in place of the one
    before. -/
def listen (s : Surface) (weight : Nat) : Surface := { s with weight := weight }

/-- Report a change. -/
def changed (s : Surface) : Surface := { s with heard := s.heard + s.weight }

/-- Replace the text as the user does. -/
def edit (s : Surface) (text : String) : Surface :=
  ({ s with text := text } : Surface).changed

/-- Replace the text as a program does. -/
def setText (s : Surface) (text : String) : Surface :=
  ({ s with text := text, writes := s.writes + 1 } : Surface).changed

/-- Show the text in another language. -/
def setLanguage (s : Surface) (language : String) : Surface :=
  { s with language := language }

/-- The listener starts counting from zero. -/
def clearHeard (s : Surface) : Surface := { s with heard := 0 }

end Surface
end NodeFlow
