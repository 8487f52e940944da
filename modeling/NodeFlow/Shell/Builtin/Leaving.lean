import NodeFlow.Shell.Builtin.Values

/-! # Commands that leave

    These commands end the shell, a function, or the loops around them. -/

namespace NodeFlow.Shell

namespace Builtin

/-- Leave in some way. -/
def leave (flow : Flow) : Work Nat := do
  let leaves : Act Nat := throw flow
  liftM leaves

/-- The status that the arguments of a command say; without any, it stays. -/
def statusFrom (command : String) (args : List String) :
    Work (Option Nat) := do
  match ← liftM dialect, args with
  | _, [] => return none
  | .plain, arg :: _ => return some (← plainNumber command arg)
  | .extended, args =>
      let args := if args.head? = some "--" then args.tail else args
      match args with
      | [] => return none
      | arg :: more =>
          match number? arg with
          | none =>
              liftM (complain (command ++ ": " ++ arg
                ++ ": numeric argument required"))
              return some 2
          | some n =>
              if more.isEmpty then return some (n % 256).toNat
              else tooMany command

/-- End the shell. -/
def exit (args : List String) : Work Nat := do
  let s ← liftM session
  let status := (← statusFrom "exit" args).getD s.status
  leave (.ends status)

/-- End a function or a snippet in a file.  Outside of them, the plain family
    ends the snippet. -/
def returnFrom (args : List String) : Work Nat := do
  let s ← liftM session
  match s.dialect, s.frames with
  | .extended, [] =>
      refuse "return: can only \x60return' from a function or sourced script" 2
  | _, _ =>
      let status := (← statusFrom "return" args).getD s.status
      leave (.returns status)

/-- Leave loops, or go on with their next round. -/
def leaveLoops (command : String) (args : List String)
    (flow : Nat → Flow) : Work Nat := do
  let s ← liftM session
  match s.dialect with
  | .plain =>
      let n ←
        match args with
        | [] => pure 1
        | arg :: _ => plainNumber command arg
      if n = 0 then refuse (command ++ ": Illegal number: 0") 2
      else if s.loops = 0 then return 0
      else
        liftM (setStatus 0)
        leave (flow (min n s.loops))
  | .extended =>
      if s.loops = 0 then
        liftM (complain (command
          ++ ": only meaningful in a \x60for', \x60while', or \x60until' loop"))
        return 0
      else
        let args := if args.head? = some "--" then args.tail else args
        liftM (setStatus 0)
        match args with
        | [] => leave (flow 1)
        | arg :: more =>
            match number? arg with
            | none =>
                liftM (complain (command ++ ": " ++ arg
                  ++ ": numeric argument required"))
                liftM (setStatus 128)
                leave .abandons
            | some n =>
                if !more.isEmpty then tooMany command
                else if n ≤ 0 then
                  liftM (complain (command ++ ": " ++ arg
                    ++ ": loop count out of range"))
                  liftM (setStatus 1)
                  leave (.leaves s.loops)
                else leave (flow (min n.toNat s.loops))

end Builtin
end NodeFlow.Shell
