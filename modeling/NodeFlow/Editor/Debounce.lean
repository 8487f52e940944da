/-! # Debouncing

    A timer that is armed anew by every edit and is due once a quiet period
    has passed since the last one.  Times are milliseconds from a common
    start. -/

namespace NodeFlow

/-- A timer with a quiet period. -/
structure Debounce where
  /-- The quiet period. -/
  delay : Nat
  /-- When the timer is due, if it is armed. -/
  deadline : Option Nat := none
  deriving DecidableEq, Repr, Inhabited

namespace Debounce

/-- Start the quiet period at `now`. -/
def arm (t : Debounce) (now : Nat) : Debounce :=
  { t with deadline := some (now + t.delay) }

/-- Forget the deadline. -/
def cancel (t : Debounce) : Debounce := { t with deadline := none }

/-- Whether a deadline is pending. -/
def isArmed (t : Debounce) : Bool := t.deadline.isSome

/-- Whether the deadline has come. -/
def isDue (t : Debounce) (now : Nat) : Bool :=
  match t.deadline with
  | some deadline => deadline ≤ now
  | none => false

/-- Forget the deadline and tell whether one was pending. -/
def flush (t : Debounce) : Bool × Debounce := (t.isArmed, t.cancel)

end Debounce
end NodeFlow
