import NodeFlow.Backend.Kind
import NodeFlow.Config

/-! # Commands of interpreters

    An interpreter is a program that reads a request in JSON and answers with
    an envelope.  The settings name the programs; Python has one without
    being named. -/

namespace NodeFlow

/-- The Python program that makes a function of the code it is sent, calls
    it, and answers with an envelope after a line feed. -/
def pythonServer : String :=
  "\n".intercalate
    ["import json, sys", "", "def _main():",
      "    request = json.load(sys.stdin)",
      "    code = request.get(\"code\", \"\")",
      "    body = \"\\n\".join(\"    \" + line for line in code.split(\"\\n\"))",
      "    scope = \x7b\"_inputs\": request.get(\"inputs\", \x7b\x7d)\x7d",
      "    try:",
      "        exec(\"def f(inputs):\\n\" + body + \"\\nresult = f(_inputs)\", scope)",
      "        envelope = \x7b\"ok\": True, \"value\": scope.get(\"result\")\x7d",
      "    except Exception as e:",
      "        envelope = \x7b\"ok\": False, \"detail\": str(e)\x7d",
      "    try:", "        out = json.dumps(envelope)",
      "    except (TypeError, ValueError) as e:",
      "        out = json.dumps(\x7b\"ok\": False, \"detail\": "
        ++ "\"result is not serialisable: \" + str(e)\x7d)",
      "    sys.stdout.write(\"\\n\" + out + \"\\n\")", "", "_main()", ""]

namespace EngineConfig

/-- The commands that are there without being named. -/
def knownCommands : Table String InterpreterCommand :=
  Table.ofList
    [(Interpreter.python.id, ⟨"python3", ["-c", pythonServer]⟩)]

/-- The command of an interpreter, if there is one. -/
def command? (c : EngineConfig) (id : String) : Option InterpreterCommand :=
  (knownCommands.merge c.interpreters).get? id

end EngineConfig
end NodeFlow
