import NodeFlow.Backend.Request
import NodeFlow.Config
import NodeFlow.Script.Json

/-! # Results of scripts

    A script is run with a limit on its time and on the rounds of its loops.
    It stands in a program that runs it and answers one text, whatever the
    script came to: the JSON text of what it returned, a mark when it returned
    nothing, or the JSON text of an object that reports what it threw.  The
    answer is sorted like the result of any other backend. -/

namespace NodeFlow.Script

/-- The limits of a script. -/
structure Limits where
  /-- Milliseconds. -/
  timeout : Nat
  /-- Rounds of loops. -/
  rounds : Nat
  deriving DecidableEq, Repr

/-- The limits in the settings. -/
def Limits.ofConfig (c : EngineConfig) : Limits :=
  ⟨c.scriptTimeout, c.scriptLoopLimit⟩

/-- The rounds that a loop goes through in a millisecond at least. -/
def pace : Nat := 10000

/-! ## The answer of the program around a script -/

/-- What a script comes to. -/
inductive Ending where
  /-- It returned nothing. -/
  | nothing
  /-- It returned a value: the JSON text of that, unless JSON cannot express
      it. -/
  | value (json : Option String)
  /-- It has thrown: the text of what it threw, in units. -/
  | thrown (text : List Nat)
  /-- The program around it stopped with an error of its own. -/
  | broken (message : String)
  deriving DecidableEq, Repr

/-- The text that stands for nothing. -/
def nothingMark : String := "__UNDEFINED__"

/-- What is said of a value that JSON cannot express. -/
def notSerialisable : String := "TypeError: result is not serialisable"

/-- The JSON text of an error report. -/
def reportText (detail : List Nat) : String :=
  ((Value.plain
      [(Text.units "error", .bool true),
        (Text.units "detail", .text detail)]).json?).getD ""

/-- The text that the program answers, or the error that it stops with.  A
    value that JSON cannot express is reported like one that is thrown. -/
def Ending.answer : Ending → Except String String
  | .nothing => .ok nothingMark
  | .value (some text) => .ok text
  | .value none => .ok (reportText (Text.units notSerialisable))
  | .thrown text => .ok (reportText text)
  | .broken message => .error message

/-- What is said of a text that is no JSON: only the first words of the message,
    without the fault that the reader finds, which stands after them. -/
def invalidResult : String := "invalid script result: "

/-- The result that a JSON text stands for. -/
def resultOfText (text : String) : Result :=
  match Json.read text with
  | some v => Result.classify (some v)
  | none => .error invalidResult

/-- The result that an answer stands for. -/
def resultOfAnswer : Except String String → Result
  | .ok text => if text = nothingMark then .empty else resultOfText text
  | .error message => .error message

/-! ## Evaluation -/

/-- What a code with inputs comes to, when its loops may go through so many
    rounds; nothing if it goes on for longer than anyone waits.  The code and
    the inputs are literals of the program around the code. -/
abbrev Evaluator : Type := Nat → String → Table String Json → Option Ending

/-- What a script that returned a value comes to. -/
def endingOfReturned : Value → Act Ending
  | .undefined => return .nothing
  | v => do return .value (← v.settled allowance []).json?

/-- The places where the report of an error asked for a text: an error that
    this raised is shown with them. -/
def placesOfReport : String :=
  "\n    at <anonymous> (unknown at :11:56)"
    ++ "\n    at <main> (unknown at :13:3)"

/-- What a script that has thrown a value comes to: it is reported with its
    text, but what is thrown when it is asked for that stops the program. -/
def endingOfThrown (v : Value) : Act Ending :=
  tryCatch (do return .thrown (← v.toText call)) (fun e =>
    match e with
    | .thrown w => do
        let text ← tryCatch (w.toText call) (fun _ => return [])
        return .broken (String.ofList (Value.charsOf text) ++ placesOfReport)
    | e => throw e)

/-- Run a code and see what it comes to. -/
def ending (code : String) (inputs : Value) : Act Ending :=
  tryCatch (do endingOfReturned (← returned code inputs)) (fun e =>
    match e with
    | .thrown v => endingOfThrown v
    | e => throw e)

/-- Evaluation as far as this development goes. -/
def interpret : Evaluator := fun rounds code inputs =>
  match (ending code (Value.ofJson (.ofTable inputs))).run
      (State.initial rounds) with
  | .ok e _ => some e
  | .error (.thrown _) _ => some (.broken notSerialisable)
  | .error (.limit message) _ => some (.broken message)
  | .error .endless _ => none

/-- Run a script by an evaluator. -/
def runBy (evaluator : Evaluator) (limits : Limits) (code : String)
    (inputs : Table String Json) : Reply :=
  if limits.timeout = 0 then .error (.timeout limits.timeout)
  else
    match evaluator limits.rounds code inputs with
    | some e => .ok (resultOfAnswer e.answer)
    | none =>
        if limits.rounds ≤ pace * limits.timeout then
          .ok (.error (Act.tooManyRounds limits.rounds))
        else .error (.timeout limits.timeout)

/-- Run a script. -/
def run (limits : Limits) (code : String) (inputs : Table String Json) :
    Reply :=
  runBy interpret limits code inputs

end NodeFlow.Script
