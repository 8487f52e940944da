/-! # Lines

    A line ends at a line feed; a carriage return right before the line feed
    belongs to the ending.  Text after the last line feed is a line of its
    own unless it is empty, and keeps a carriage return at its end. -/

namespace NodeFlow.Text

/-- The stretches between line feeds, one more than there are line feeds. -/
def stretches : List Char → List (List Char)
  | [] => [[]]
  | c :: rest =>
      if c = '\n' then [] :: stretches rest
      else
        match stretches rest with
        | [] => [[c]]
        | s :: more => (c :: s) :: more

/-- The stretch without a carriage return at its end. -/
def dropReturn (cs : List Char) : List Char :=
  if cs.getLast? = some '\r' then cs.dropLast else cs

/-- The lines of a text, in order. -/
def charLines (cs : List Char) : List (List Char) :=
  let parts := stretches cs
  let final := parts.getLastD []
  parts.dropLast.map dropReturn ++ (if final.isEmpty then [] else [final])

/-- The lines of a text, in order. -/
def lines (s : String) : List String :=
  (charLines s.toList).map String.ofList

theorem stretches_ne_nil (cs : List Char) : stretches cs ≠ [] := by
  cases cs with
  | nil => simp [stretches]
  | cons c rest =>
      rw [stretches]
      split
      · simp
      · split <;> simp

/-- Text that ends in a line feed has one stretch more, and it is empty. -/
theorem stretches_append_newline (cs rest : List Char) :
    stretches (cs ++ '\n' :: rest) = stretches cs ++ stretches rest := by
  induction cs with
  | nil => simp [stretches]
  | cons c tail ih =>
      rw [List.cons_append, stretches, stretches]
      split
      · simp [ih]
      · rw [ih]
        cases h : stretches tail with
        | nil => exact absurd h (stretches_ne_nil tail)
        | cons s more => simp

end NodeFlow.Text
