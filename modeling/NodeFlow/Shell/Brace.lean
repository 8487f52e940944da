import NodeFlow.Shell.Command

/-! # Alternatives between braces

    In the extended family a word with alternatives between braces stands for
    several words: one for each of the alternatives, which stand between
    commas, or for each step from one end of a range to the other. -/

namespace NodeFlow.Shell

namespace Brace

/-- A character without quotes, or another part of a word. -/
inductive Bit where
  /-- A character. -/
  | char (c : Char)
  /-- Another part. -/
  | other (p : Part)

/-- The characters and parts of a word. -/
def bits (parts : List Part) : List Bit :=
  parts.flatMap (fun p =>
    match p with
    | .plain s => s.toList.map .char
    | p => [.other p])

/-- The parts of characters and parts; `before` are characters without quotes
    in front of them, the last one first. -/
def partsFrom (before : List Char) : List Bit → List Part
  | [] => if before.isEmpty then [] else [.plain (String.ofList before.reverse)]
  | .char c :: rest => partsFrom (c :: before) rest
  | .other p :: rest =>
      (if before.isEmpty then []
        else [.plain (String.ofList before.reverse)])
        ++ p :: partsFrom [] rest

/-- The name after a dollar sign without braces. -/
def openName? : Bit → Option String
  | .other (.param (.named name) false .value source) =>
      if source = "$" ++ name then some name else none
  | _ => none

/-- Names after dollar signs go on with the characters of a name that follow
    them now; one of them has begun if there is a `name`. -/
def grown (name : Option String) : List Bit → List Bit
  | [] => told
  | .char c :: rest =>
      match name with
      | some n =>
          if inName c then grown (some (n.push c)) rest
          else told ++ .char c :: grown none rest
      | none => .char c :: grown none rest
  | b :: rest =>
      match openName? b with
      | some n => told ++ grown (some n) rest
      | none => told ++ b :: grown none rest
where
  /-- The name that has begun. -/
  told : List Bit :=
    match name with
    | some n => [.other (.param (.named n) false .value ("$" ++ n))]
    | none => []

/-- Whether a character comes next. -/
def isNext (c : Char) : List Bit → Bool
  | .char d :: _ => c = d
  | _ => false

/-- What stands in front of the closing brace and after it, if something
    separates alternatives in front of it, or something already has. -/
def closing? (level : Nat) (separated : Bool) :
    List Bit → Option (List Bit × List Bit)
  | [] => none
  | .other p :: rest =>
      (closing? level separated rest).map (fun (a, b) => (.other p :: a, b))
  | .char c :: rest =>
      if c = '\x7d' && level = 0 && separated then some ([], rest)
      else
        let level' :=
          if c = '\x7b' then level + 1
          else if c = '\x7d' then level - 1
          else level
        let separates : Bool :=
          level = 0
            && (c = ',' || (c = '.' && isNext '.' rest
              && !isNext '\x7d' rest.tail && !rest.tail.isEmpty))
        (closing? level' (separated || separates) rest).map
          (fun (a, b) => (.char c :: a, b))

/-- What stands in front of the first alternatives, the alternatives, and what
    stands after them. -/
def first? (start : Bool) : List Bit → Option (List Bit × List Bit × List Bit)
  | [] => none
  | .char '\x7b' :: rest =>
      let found := if start && isNext '\x7d' rest then none
        else closing? 0 false rest
      match found with
      | some (inside, after) => some ([], inside, after)
      | none =>
          (first? false rest).map
            (fun (a, b, c) => (Bit.char '\x7b' :: a, b, c))
  | b :: rest => (first? false rest).map (fun (a, i, c) => (b :: a, i, c))

/-- The number of open braces after a character or part. -/
def levelAfter (level : Nat) : Bit → Nat
  | .char '\x7b' => level + 1
  | .char '\x7d' => level - 1
  | _ => level

/-- What stands between commas. -/
def splitAtCommas (level : Nat) : List Bit → List (List Bit)
  | [] => [[]]
  | b :: rest =>
      let more := splitAtCommas (levelAfter level b) rest
      if level = 0 && isNext ',' [b] then [] :: more
      else
        match more with
        | [] => [[b]]
        | p :: ps => (b :: p) :: ps

/-- Whether a comma separates alternatives. -/
def hasComma (inside : List Bit) : Bool := (splitAtCommas 0 inside).length != 1

/-- The characters, if there is nothing else. -/
def text? (inside : List Bit) : Option String :=
  let char? : Bit → Option Char := fun b =>
    match b with
    | .char c => some c
    | .other _ => none
  (inside.mapM char?).map String.ofList

/-- The whole number that a text writes. -/
def number? (s : String) : Option Int :=
  match s.toList with
  | '-' :: ds =>
      if !ds.isEmpty && ds.all Char.isDigit then some (-(decimalValue ds : Int))
      else none
  | '+' :: ds | ds =>
      if !ds.isEmpty && ds.all Char.isDigit then some (decimalValue ds)
      else none

/-- Whether a number is written with zeros in front. -/
def isPadded (s : String) : Bool :=
  match s.toList with
  | '-' :: '0' :: _ :: _ => true
  | '0' :: _ :: _ => true
  | _ => false

/-- The numbers from one to another one by steps. -/
def range (a b step : Int) : List Int :=
  let size := if step = 0 then 1 else step.natAbs
  let count := (b - a).natAbs / size + 1
  (List.range count).map (fun i =>
    if a ≤ b then a + (i * size : Nat) else a - (i * size : Nat))

/-- A number with zeros in front up to a width. -/
def padded (width : Nat) (n : Int) : String :=
  let digits := toString n.natAbs
  let sign := if n < 0 then "-" else ""
  sign
    ++ String.ofList
      (List.replicate (width - digits.length - sign.length) '0') ++ digits

/-- The texts of a range. -/
def steps? (s : String) : Option (List String) :=
  let (ends, step) : Option (String × String) × Option Int :=
    match s.splitOn ".." with
    | [a, b] => (some (a, b), some 1)
    | [a, b, c] => (some (a, b), number? c)
    | _ => (none, none)
  match ends, step with
  | some (a, b), some step =>
      match number? a, number? b, a.toList, b.toList with
      | some m, some n, _, _ =>
          let width :=
            if isPadded a || isPadded b then max a.length b.length else 0
          some ((range m n step).map (padded width))
      | _, _, [c], [d] =>
          if c.isAlpha && d.isAlpha then
            some ((range c.toNat d.toNat step).map (fun n =>
              String.singleton (Char.ofNat n.toNat)))
          else none
      | _, _, _, _ => none
  | _, _ => none

/-- Everything of one list before everything of another one. -/
def join (as bs : List (List Bit)) : List (List Bit) :=
  as.flatMap (fun a => bs.map (fun b => a ++ b))

/-- What characters and parts with alternatives stand for. -/
def expand : Nat → List Bit → List (List Bit)
  | 0, word => [word]
  | fuel + 1, word =>
      match first? true word with
      | none => [word]
      | some (before, inside, after) =>
          let chosen : Option (List (List Bit)) :=
            if hasComma inside then
              some ((splitAtCommas 0 inside).flatMap (expand fuel))
            else
              ((text? inside).bind steps?).map (fun all =>
                all.map (fun s => s.toList.map .char))
          match chosen with
          | some all =>
              let rest := if after.isEmpty then [[]] else expand fuel after
              join (join [before] all) rest
          | none =>
              if after.isEmpty then [word]
              else
                let same : List Bit := .char '\x7b' :: inside ++ [.char '\x7d']
                join [before ++ same] (expand fuel after)

/-- Whether a word may have alternatives. -/
def mayExpand (parts : List Part) : Bool :=
  parts.any (fun p =>
    match p with
    | .plain s => s.toList.contains '\x7b'
    | _ => false)

/-- The words that a word stands for. -/
def words (w : Word) : List Word :=
  if mayExpand w.parts then
    let all := bits w.parts
    (expand (all.length + 1) all).map (fun b =>
      .mk (partsFrom [] (grown none b)) w.source)
  else [w]

end Brace
end NodeFlow.Shell
