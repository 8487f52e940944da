import NodeFlow.Execution.Engine

/-! # Rehearsals

    A rehearsal runs an engine with answers prepared for the backends outside
    of it: each request is noted and takes the next prepared answer.  When
    there are no more, a program prints nothing and succeeds, and an
    interpreter returns nothing. -/

namespace NodeFlow

/-- Prepared answers and noted requests. -/
structure Rehearsal where
  /-- The answers of programs. -/
  shell : List (Except Failure ShellOutput) := []
  /-- The answers of interpreters. -/
  interpreter : List (Except Failure Envelope) := []
  /-- The requests so far, first things first. -/
  noted : List Request := []

namespace Rehearsal

/-- What a program leaves behind when no answer is prepared. -/
def quietProgram : ShellOutput := ⟨some 0, none, "", ""⟩

/-- What an interpreter answers when no answer is prepared. -/
def quietInterpreter : Envelope := { ok := true }

/-- Note a request to a backend outside the engine. -/
def note (s : Rehearsal) (request : Request) : Rehearsal :=
  match request with
  | .script _ _ => s
  | request => { s with noted := s.noted ++ [request] }

/-- Take the answer to a request; scripts are run by `runScript`. -/
def answer (runScript : String → Table String Json → Reply) (s : Rehearsal) :
    Request → Reply × Rehearsal
  | .script code inputs => (runScript code inputs, s)
  | .shell _ _ _ =>
      let reply := s.shell.headD (.ok quietProgram)
      (reply.map ShellOutput.result, { s with shell := s.shell.tail })
  | .interpreter _ _ _ =>
      let reply := s.interpreter.headD (.ok quietInterpreter)
      (reply.map Envelope.result,
        { s with interpreter := s.interpreter.tail })

/-- Note a request and answer it. -/
def respond (runScript : String → Table String Json → Reply)
    (request : Request) : StateM Rehearsal Reply :=
  fun s => (s.note request).answer runScript request

end Rehearsal
end NodeFlow
