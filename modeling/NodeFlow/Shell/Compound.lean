import NodeFlow.Shell.Simple

/-! # Compound commands

    Loops and choices run other commands, again and again or not at all.  A
    command inside a loop may leave it or go on with its next round; from
    inside several loops, it may do so with an outer one.  How a command is run
    is a parameter here. -/

namespace NodeFlow.Shell

namespace Compound

variable (run : Command → Act Unit)

/-- Do something of which something asks whether it succeeds. -/
def asked (act : Act Unit) : Act Unit :=
  during (fun s => { s with asked := true })
    (fun before s => { s with asked := before.asked }) act

/-- Run commands inside another one. -/
def commands (body : List Command) : Act Unit :=
  Event.commandsThen run false body

/-! ## Rounds -/

/-- What follows a round of a loop, or a part of one. -/
inductive Turn where
  /-- What comes next in the loop. -/
  | goesOn
  /-- The next round. -/
  | again
  /-- Nothing more. -/
  | over
  deriving DecidableEq, Repr

/-- Go through a part of a round. -/
def turn (act : Act Unit) : Act Turn :=
  tryCatch
    (do
      act
      return .goesOn)
    (fun flow =>
      match flow with
      | .leaves n => if n ≤ 1 then return .over else throw (.leaves (n - 1))
      | .repeats n =>
          if n ≤ 1 then return .again else throw (.repeats (n - 1))
      | flow => throw flow)

/-- Do something during which a line counts for commands without a line of
    their own. -/
def grounded (line : Nat) (act : Act Unit) : Act Unit :=
  during (fun s => { s with ground := line + s.above })
    (fun before s => { s with ground := before.ground }) act

/-- Do something inside one more loop. -/
def looping (act : Act Unit) : Act Unit :=
  during (fun s => { s with loops := s.loops + 1 })
    (fun before s => { s with loops := before.loops }) act

/-- More rounds than there can be. -/
def mostRounds : Act Nat := do return (← world).patience + 1

/-- Repeat as long as a condition succeeds, or fails if `inverse`; `status` is
    that of the last round. -/
def whileRounds (inverse : Bool) (condition body : List Command) :
    Nat → Nat → Act Unit
  | 0, _ => throw .endless
  | fuel + 1, status => do
      let d ← dialect
      match ← turn (asked (commands run condition)), d with
      | .over, .plain => setStatus status
      | .over, .extended => setStatus (if inverse then status else 0)
      | .again, .plain => whileRounds inverse condition body fuel status
      | .again, .extended =>
          if inverse then setStatus status
          else whileRounds inverse condition body fuel 0
      | .goesOn, _ =>
          let s ← session
          if (s.status == 0) == inverse then setStatus status
          else
            match ← turn (commands run body) with
            | .over => return ()
            | _ =>
                whileRounds inverse condition body fuel (← session).status

/-- Repeat as long as a condition succeeds, or fails if `inverse`. -/
def loop (inverse : Bool) (condition body : List Command) : Act Unit := do
  let most ← mostRounds
  looping (whileRounds run inverse condition body most 0)

/-! ## Loops over fields -/

/-- Give a parameter a value in a loop of the extended family; tells whether it
    may change. -/
def give (name value : String) : Act Bool :=
  attempt (assignText name false value)

/-- The beginning of a command as a command of its own. -/
def heading (line : Nat) (words : List String) : Command :=
  .simple line [] (words.map (fun w => .mk [.plain w] w)) []

/-- Show the beginning of a command, and tell of it before it is run. -/
def announce (line : Nat) (words : List String) : Act Unit := do
  (Apart.runner run).trace (pure (" ".intercalate words))
  Simple.announce run line (heading line words)

/-- Run commands for every field. -/
def eachRounds (line : Nat) (head : List String) (name : String)
    (body : List Command) : List String → Act Unit
  | [] => return ()
  | field :: rest => do
      let free ←
        if ← isExtended then do
          announce run line head
          give name field
        else do
          assignText name false field
          pure true
      if free then
        match ← turn (commands run body) with
        | .over => return ()
        | _ => eachRounds line head name body rest

/-- The fields that a loop goes over, and its words. -/
def fieldsOf (words : Option (List Word)) :
    Act (List String × List String) := do
  match words with
  | some ws => return (← Expand.fields (Apart.runner run) ws, ws.map (·.source))
  | none => return ((← session).args, ["\"$@\""])

/-! ## Choice by people -/

/-- White space from one column up to another one. -/
def spaces (start stop : Nat) : List Char :=
  if start < stop then
    if start / 8 < stop / 8 then '\t' :: spaces (start + (8 - start % 8)) stop
    else ' ' :: spaces (start + 1) stop
  else []
termination_by stop - start

/-- The number of digits of a number. -/
def digitCount (n : Nat) : Nat := (toString n).length

/-- Fields with their numbers, in columns. -/
def menu (e : Encoding) (fields : List String) : String :=
  let count := fields.length
  let size (f : String) : Nat := Octets.size e f
  let number := digitCount count
  let width := (fields.map size).foldl max 0 + number + 4
  let columns := max 1 (80 / width)
  let rows := (count + columns - 1) / columns
  let columns := (count + rows - 1) / rows
  let rows := if rows = 1 then columns else rows
  let cell (row column : Nat) (f : String) : List Char :=
    let i := row + column * rows
    let digits := if column = 0 then digitCount rows else number
    let label := toString (i + 1)
    let text := String.ofList (List.replicate (digits - label.length) ' ')
      ++ label ++ ") " ++ f
    let start := column * width
    let gap :=
      if i + rows < count then
        spaces (start + digits + 2 + size f) (start + width)
      else []
    text.toList ++ gap
  let line (row : Nat) : String :=
    let cells := (List.range count).filterMap (fun column =>
      (fields[row + column * rows]?).map (cell row column))
    String.ofList cells.flatten ++ "\n"
  String.join ((List.range rows).map line)

/-- Ask which field is chosen, until something is said; nothing, if nothing
    can be read. -/
def choice? (fields : List String) : Nat → Bool → Act (Option String)
  | 0, _ => return none
  | fuel + 1, shows => do
      let s ← session
      if shows then
        let _ ← printOn 2 (menu s.encoding fields)
      let _ ← printOn 2 ((s.text? "PS3").getD "#? ")
      let status ← (Builtin.read []).run
      match status with
      | .ok 0 =>
          let reply := ((← session).text? "REPLY").getD ""
          if reply.isEmpty then choice? fields fuel true
          else
            match Builtin.number? reply with
            | some n =>
                let place := n.toNat - 1
                return some (if n < 1 then "" else fields.getD place "")
            | none => return some ""
      | _ =>
          let _ ← printOn 1 "\n"
          return none

/-- Run commands for every field that is chosen. -/
def choiceRounds (line : Nat) (head : List String) (name : String)
    (body : List Command) (fields : List String) : Nat → Bool → Act Unit
  | 0, _ => throw .endless
  | fuel + 1, shows => do
      announce run line head
      match ← choice? fields (fuel + 1) shows with
      | none => setStatus 1
      | some field =>
          if ← give name field then
            match ← turn (commands run body) with
            | .over => return ()
            | _ =>
                let reply := ((← session).text? "REPLY").getD ""
                choiceRounds line head name body fields fuel reply.isEmpty

/-- Repeat for every field of some words, or for those that are chosen. -/
def each (line : Nat) (asks : Bool) (name : String)
    (words : Option (List Word)) (body : List Command) : Act Unit := do
  let extended ← isExtended
  change (fun s =>
    { s with line := line + (if extended then s.above else 0) })
  if extended && !isName name then
    protest ("\x60" ++ name ++ "': not a valid identifier")
    setStatus 1
  else
    let (fields, sources) ← fieldsOf run words
    let head := [if asks then "select" else "for", name, "in"] ++ sources
    if fields.isEmpty then setStatus 0
    else
      let most ← mostRounds
      let rounds :=
        if asks then choiceRounds run line head name body fields most true
        else eachRounds run line head name body fields
      looping (grounded line rounds)

/-! ## Calculations -/

/-- The value of a calculation of the extended family, if it has one. -/
def calculated (line : Nat) (parts : List Part) (source : String) :
    Act (Option Int) := do
  let r := Apart.runner run
  Simple.announce run line (.calculate line parts source)
  let atoms ← Expand.parts r Expand.deepestPart .quoted parts
  let text := Atom.joined atoms
  r.trace (pure ("(( " ++ text ++ " ))"))
  match ← Arithmetic.evaluate text with
  | .ok n => return some n
  | .error e =>
      unless e.isEmpty do protest ("((: " ++ e)
      return none

/-- Success if a calculation is not zero. -/
def calculate (line : Nat) (parts : List Part) (source : String) :
    Act Unit := do
  let n ← calculated run line parts source
  setStatus (if n.getD 0 = 0 then 1 else 0)
  change (fun s => { s with statuses := [s.status] })

/-- A part of a counting loop, without white space ahead. -/
def countPart (parts : List Part) (source : String) : List Part × String :=
  let bare (s : String) : String := String.ofList (s.toList.dropWhile isSpace)
  let one : List Part × String := ([.literal "1"], "1")
  if (bare source).isEmpty then one
  else
    match parts with
    | .literal s :: rest => (.literal (bare s) :: rest, bare source)
    | .plain s :: rest => (.plain (bare s) :: rest, bare source)
    | parts => (parts, source)

/-- Repeat as long as a calculation is not zero; `status` is that of the last
    round. -/
def countRounds (value : List Part × String → Act (Option Int))
    (condition step : List Part × String) (body : List Command) :
    Nat → Nat → Act Unit
  | 0, _ => throw .endless
  | fuel + 1, status => do
      match ← value condition with
      | none => setStatus 1
      | some n =>
          if n = 0 then setStatus status
          else
            match ← turn (commands run body) with
            | .over => return ()
            | _ =>
                let status := (← session).status
                match ← value step with
                | none => setStatus 1
                | some _ =>
                    countRounds value condition step body fuel status

/-- A counting loop. -/
def count (line : Nat) (start condition step : List Part × String)
    (body : List Command) : Act Unit := do
  let value (e : List Part × String) : Act (Option Int) :=
    calculated run line e.1 e.2
  match ← value start with
  | none => setStatus 1
  | some _ =>
      looping (countRounds run value condition step body (← mostRounds) 0)

/-! ## Choices -/

/-- Whether one of some patterns matches. -/
def matchesAny (text : String) : List Word → Act Bool
  | [] => return false
  | w :: rest => do
      let s ← session
      let p ← Expand.patternOf (Apart.runner run) false w
      let fits := p.fits (s.features.contains "nocasematch")
        (Octets.glyphs s.encoding text.toList)
      if fits then return true else matchesAny text rest

/-- Run the branches of a choice; `ran` if one has been run, and `chosen` if
    the next one is run in any case. -/
def branches (last : Bool) (text : String) (ran chosen : Bool) :
    List Branch → Act Unit
  | [] => unless ran do setStatus 0
  | .mk patterns body ending :: rest => do
      let runs ← if chosen then pure true else matchesAny run text patterns
      if !runs then branches last text ran false rest
      else
        if body.isEmpty then setStatus 0
        else Event.commandsThen run (last && ending = .stops) body
        match ending with
        | .stops => return ()
        | .fallsThrough => branches last text true true rest
        | .goesOn => branches last text true false rest

/-- Choose by patterns that match a word. -/
def select (last : Bool) (line : Nat) (w : Word) (all : List Branch) :
    Act Unit := do
  if ← isExtended then announce run line ["case", w.source, "in"]
  else change (fun s => { s with line := line })
  grounded line (do
    let text ← Expand.oneField (Apart.runner run) w
    branches run last text false false all)

/-- Choose by the success of a condition. -/
def choose (last : Bool) (condition yes : List Command)
    (no : Option (List Command)) : Act Unit := do
  asked (commands run condition)
  if (← session).status = 0 then Event.commandsThen run last yes
  else
    match no with
    | some no => Event.commandsThen run last no
    | none => setStatus 0

/-! ## Functions -/

/-- What a function is said to come from. -/
def sourceOf (s : Session) : String :=
  match s.frames with
  | f :: _ => f.source
  | [] =>
      if s.letters.toList.contains 'c' then "environment"
      else if s.letters.toList.contains 's' then "main"
      else s.name

/-- Give a command a name. -/
def define (line start : Nat) (name : String) (body : Command) :
    Act Unit := do
  let s ← session
  let old := s.functions.get? name
  if (old.map Function.fixed).getD false then
    protest (name ++ ": readonly function")
    setStatus 1
  else
    let f : Function :=
      { body := body
        source := sourceOf s
        line := line + s.above
        start := start + s.above
        above := s.above
        exported := (old.map Function.exported).getD false }
    change (fun s => { s with functions := s.functions.insert name f })
    setStatus 0

end Compound
end NodeFlow.Shell
