import NodeFlow.Shell.Compound
import NodeFlow.Shell.Timing

/-! # Running commands

    A command is run with the commands inside it as long as they are not nested
    too deeply and the patience with all of them lasts.  After it, the shell
    does what it has been told to do in events, and it may end because the
    command has failed. -/

namespace NodeFlow.Shell

namespace Command

/-- Do what follows a command; if `heeded`, its failure may end the shell. -/
def settle (run : Command → Act Unit) (heeded : Bool) : Act Unit := do
  match ← dialect with
  | .plain =>
      Event.deliver run
      if heeded then Event.heed run
  | .extended =>
      if heeded then Event.heed run
      Event.deliver run

/-- Run a command whose success counts as a failure, and the other way
    round. -/
def inverted (act : Act Unit) : Act Unit := do
  Compound.asked act
  setStatus (if (← session).status = 0 then 1 else 0)

/-- Run a command that may be the last one. -/
def following (run : Command → Act Unit) (last : Bool) (c : Command) :
    Act Unit := do
  if last then change (fun s => { s with last := true })
  run c

/-- Run a command; fuel bounds how deeply commands are inside one another. -/
def runWith : Nat → Command → Act Unit
  | 0, _ => throw .endless
  | fuel + 1, c => do
      step
      let run := runWith fuel
      let last ← Event.takeLast
      let plainLast := last && (← dialect) = .plain
      match c with
      | .simple line assignments words redirects =>
          Simple.command run last line assignments words redirects
          settle run true
      | .pipeline true [.redirected line c redirects] =>
          if ← isExtended then
            run (.redirected line (.pipeline true [c]) redirects)
          else inverted (run (.redirected line c redirects))
      | .pipeline true [c] => inverted (run c)
      | .pipeline false [c] => following run last c
      | .pipeline true members => inverted (Apart.pipeline run members)
      | .pipeline false members =>
          if last then change (fun s => { s with last := true })
          Apart.pipeline run members
          settle run true
      | .timed usual c =>
          run c
          Timing.tell usual
      | .both first second =>
          Compound.asked (run first)
          if (← session).status = 0 then following run last second
      | .either first second =>
          Compound.asked (run first)
          if (← session).status != 0 then following run last second
      | .aside c => Apart.aside c
      | .redirected line c redirects =>
          change (fun s =>
            match s.dialect with
            | .plain => { s with line := line }
            | .extended =>
                { s with
                  line :=
                    match c with
                    | .apart line _ | .check line _ | .calculate line _ _ =>
                        line + s.above
                    | _ => s.ground })
          let failed : Act Unit := do
            setStatus (if (← dialect) = .plain then 2 else 1)
            settle run true
          match ← dialect, c with
          | .extended, .apart _ _ =>
              Redirection.duringProgram (Apart.runner run) redirects
                (settle run true) (run c)
          | _, _ =>
              Redirection.during (Apart.runner run) redirects failed (run c)
      | .group [] => setStatus 0
      | .group body => Event.commandsThen run plainLast body
      | .apart line body =>
          if last then change (fun s => { s with last := true })
          Apart.parentheses run line body
          change (fun s => { s with line := s.above + line })
          settle run true
      | .choose condition yes no =>
          Compound.choose run plainLast condition yes no
      | .loop inverse condition body =>
          Compound.loop run inverse condition body
      | .each line asks name words body =>
          Compound.each run line asks name words body
      | .count line start condition step sources body =>
          let part (i : Nat) (parts : List Part) : List Part × String :=
            Compound.countPart parts (sources.getD i "")
          Compound.count run line (part 0 start) (part 1 condition)
            (part 2 step) body
      | .select line w branches => Compound.select run plainLast line w branches
      | .calculate line parts source =>
          Compound.calculate run line parts source
          settle run true
      | .check line t =>
          Simple.announce run line (.check line t)
          setStatus (← Condition.statusOf (Apart.runner run) t)
          change (fun s => { s with statuses := [s.status] })
          settle run true
      | .define line start name body =>
          Compound.define line start name body

/-- More levels than commands are inside one another. -/
def deepestLevel : Nat := 1000000

/-- Run a command. -/
def run (c : Command) : Act Unit := runWith deepestLevel c

end Command

/-! ## Programs -/

/-- What a program has left behind; it has not ended if it has no `exit`. -/
structure Remains where
  /-- How it has ended. -/
  exit : Option Exit
  /-- What it has printed to its output. -/
  output : String
  /-- What it has printed to its error output. -/
  errors : String
  /-- The files after it. -/
  files : FileTree

/-- The state in which a program is started with an input in an
    environment. -/
def State.starting (env : List (String × String)) (input : List Char)
    (files : FileTree) (patience : Nat) : State :=
  { session :=
      { dialect := .plain
        name := ""
        store :=
          env.foldl (fun t (n, v) => t.insert n (.ofText v true)) Table.empty
        streams := [(0, 0), (1, 1), (2, 2)] }
    world :=
      { channels := #[.source input, .sink [], .sink []]
        files := files
        patience := patience } }

/-- Run a program at a path under a name to its end, and after it everything
    that nothing has waited for. -/
def finish (state : State) (path kind name : String) (args : List String) :
    Remains :=
  let act : Act Exit := do
    let exit ← Call.program Command.run path kind name args
    Apart.catchUpOn Command.run (fun _ => true)
    return exit
  let remains (exit : Option Exit) (s : State) : Remains :=
    let printed (n : Nat) : String :=
      match s.world.channels.getD n .void with
      | .sink all => Octets.toText (String.join all.reverse)
      | _ => ""
    ⟨exit, printed 1, printed 2, s.world.files⟩
  match act.run state with
  | .ok exit s => remains (some exit) s
  | .error _ s => remains none s

end NodeFlow.Shell
