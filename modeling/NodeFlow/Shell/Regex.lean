import NodeFlow.Shell.Pattern

/-! # Regular expressions

    A regular expression matches a part of a text.  Of all matches the ones
    that begin first count, and of these the longest one; the parts that its
    groups match are known afterwards. -/

namespace NodeFlow.Shell

/-- A regular expression. -/
inductive Regex where
  /-- The empty text. -/
  | nothing
  /-- One glyph. -/
  | exactly (g : Glyph)
  /-- Any glyph. -/
  | anyGlyph
  /-- One of some glyphs, or none of them. -/
  | oneOf (inverse : Bool) (sets : List GlyphSet)
  /-- The beginning of the text. -/
  | start
  /-- The end of the text. -/
  | stop
  /-- The beginning or the end of a word, or both; or none, if `inverse`. -/
  | edge (begins ends inverse : Bool)
  /-- What a group has matched. -/
  | same (n : Nat)
  /-- A group. -/
  | group (n : Nat) (r : Regex)
  /-- One after the other. -/
  | both (a b : Regex)
  /-- One or the other. -/
  | either (a b : Regex)
  /-- So many times at least, and at most. -/
  | times (r : Regex) (least : Nat) (most : Option Nat)
  deriving Repr, Inhabited

namespace Regex

/-! ## Matching -/

/-- How far a match has come. -/
structure Progress where
  /-- The glyph before, if there is one. -/
  before : Option Glyph
  /-- The glyphs that follow. -/
  rest : List Glyph
  /-- What the groups have matched. -/
  groups : List (Nat × List Glyph)

/-- Go past one glyph that fits. -/
def Progress.step (fit : Glyph → Bool) (p : Progress) : List Progress :=
  match p.rest with
  | g :: more => if fit g then [{ p with before := some g, rest := more }] else []
  | [] => []

/-- Whether a glyph belongs to a word. -/
def inWord (g : Option Glyph) : Bool :=
  match g with
  | some g => GlyphSet.inClass "alnum" (Octets.charOf g) || g == ['_']
  | none => false

/-- All the ways to go on, the preferred one first. -/
def ways (fold : Bool) : Nat → Regex → Progress → List Progress
  | 0, _, _ => []
  | fuel + 1, r, p =>
      match r with
      | .nothing => [p]
      | .exactly g =>
          p.step (fun h => Pattern.folded fold g = Pattern.folded fold h)
      | .anyGlyph => p.step (fun _ => true)
      | .oneOf inverse sets =>
          p.step (fun h => Pattern.anyHolds fold h sets != inverse)
      | .start => if p.before.isNone then [p] else []
      | .stop => if p.rest.isEmpty then [p] else []
      | .edge begins ends inverse =>
          let a := inWord p.before
          let b := inWord p.rest.head?
          let here := (begins && !a && b) || (ends && a && !b)
          if here != inverse then [p] else []
      | .same n =>
          let text := (p.groups.lookup n).getD []
          if text.isPrefixOf p.rest then
            [{ p with
              before := if text.isEmpty then p.before else text.getLast?
              rest := p.rest.drop text.length }]
          else []
      | .group n r =>
          (ways fold fuel r p).map (fun q =>
            { q with
              groups :=
                (n, p.rest.take (p.rest.length - q.rest.length))
                  :: q.groups.filter (fun e => e.1 != n) })
      | .both a b => (ways fold fuel a p).flatMap (ways fold fuel b)
      | .either a b => ways fold fuel a p ++ ways fold fuel b p
      | .times r least most =>
          if most = some 0 then [p]
          else
            let more := (ways fold fuel r p).flatMap (fun q =>
              if q.rest.length = p.rest.length && least = 0 then []
              else ways fold fuel (.times r (least - 1) (most.map (· - 1))) q)
            if least = 0 then more ++ [p] else more

/-- The length of a regular expression. -/
def size : Regex → Nat
  | .group _ r => r.size + 1
  | .times r least most => (r.size + 1) * (max least (most.getD 0) + 2)
  | .both a b | .either a b => a.size + b.size + 1
  | _ => 1

/-- The number of groups. -/
def groupCount : Regex → Nat
  | .group _ r => r.groupCount + 1
  | .times r _ _ => r.groupCount
  | .both a b | .either a b => a.groupCount + b.groupCount
  | _ => 0

/-- A match: what stands before it, and what it and its groups have
    matched. -/
structure Match where
  /-- The matched text. -/
  text : List Glyph
  /-- What the groups have matched. -/
  groups : List (Nat × List Glyph)

/-- The longest way on. -/
def longest : List Progress → Option Progress
  | [] => none
  | p :: rest =>
      some (rest.foldl
        (fun best q => if q.rest.length < best.rest.length then q else best) p)

/-- The first match in a text. -/
def find? (fold : Bool) (r : Regex) (before : Option Glyph) :
    List Glyph → Option Match
  | [] =>
      (longest (ways fold (2 * r.size + 16) r ⟨before, [], []⟩)).map
        (fun p => ⟨[], p.groups⟩)
  | g :: text =>
      let all := g :: text
      let fuel := 2 * (r.size + 2) * (all.length + 2)
      match longest (ways fold fuel r ⟨before, all, []⟩) with
      | some p => some ⟨all.take (all.length - p.rest.length), p.groups⟩
      | none => find? fold r (some g) text

/-! ## Reading -/

/-- What has been read, the number of the groups so far, and what follows. -/
abbrev Taken : Type := Option (Regex × Nat × List Pattern.Mark)

/-- The whole number at the beginning, and what follows. -/
def number (ms : List Pattern.Mark) : Option Nat × List Pattern.Mark :=
  let ds := ms.takeWhile (fun m => (Octets.charOf m.1).isDigit)
  (if ds.isEmpty then none
    else some (decimalValue (ds.map (fun m => Octets.charOf m.1))),
    ms.drop ds.length)

/-- How often something may occur, after an opening brace. -/
def interval? (ms : List Pattern.Mark) :
    Option (Nat × Option Nat × List Pattern.Mark) :=
  let (least, rest) := number ms
  match rest with
  | m :: rest =>
      if Pattern.isBare '\x7d' m then least.map (fun n => (n, some n, rest))
      else if Pattern.isBare ',' m then
        let (most, rest) := number rest
        match rest with
        | m :: rest =>
            if Pattern.isBare '\x7d' m then some (least.getD 0, most, rest)
            else none
        | [] => none
      else none
  | [] => none

/-- What a letter after a backslash stands for. -/
def escaped (g : Glyph) : Regex :=
  let word : List GlyphSet := [.named "alnum", .range '_' '_']
  match g with
  | ['w'] => .oneOf false word
  | ['W'] => .oneOf true word
  | ['s'] => .oneOf false [.named "space"]
  | ['S'] => .oneOf true [.named "space"]
  | ['b'] => .edge true true false
  | ['B'] => .edge true true true
  | ['<'] => .edge true false false
  | ['>'] => .edge false true false
  | [c] =>
      if c.isDigit && c != '0' then .same (c.toNat - '0'.toNat)
      else .exactly g
  | g => .exactly g

/-- Whether a regular expression is a place in a text and not a part of it,
    which cannot be repeated. -/
def isAnchor : Regex → Bool
  | .start | .stop | .edge _ _ _ => true
  | _ => false

/-- The largest number of times that can be asked for. -/
def mostTimes : Nat := 32767

/-- The classes of glyphs between brackets. -/
def classes : List String :=
  ["alpha", "digit", "alnum", "upper", "lower", "space", "blank", "punct",
    "print", "graph", "cntrl", "xdigit"]

/-- Whether there is such a set. -/
def isSet : GlyphSet → Bool
  | .range a b => a ≤ b
  | .named name => classes.contains name

mutual

/-- Read alternatives up to a closing parenthesis, if `inside` one. -/
def alternatives : Nat → Bool → Nat → List Pattern.Mark → Taken
  | 0, _, _, _ => none
  | fuel + 1, inside, n, ms => do
      let (a, n, rest) ← sequence fuel inside .nothing n ms
      match rest with
      | m :: rest' =>
          if Pattern.isBare '|' m then
            let (b, n, rest) ← alternatives fuel inside n rest'
            some (.either a b, n, rest)
          else some (a, n, rest)
      | [] => some (a, n, [])

/-- Read pieces one after the other. -/
def sequence : Nat → Bool → Regex → Nat → List Pattern.Mark → Taken
  | 0, _, _, _, _ => none
  | fuel + 1, inside, before, n, ms =>
      match ms with
      | [] => some (before, n, [])
      | m :: _ =>
          if Pattern.isBare '|' m || (inside && Pattern.isBare ')' m) then
            some (before, n, ms)
          else do
            let (r, n, rest) ← atom fuel n ms
            let (r, rest) ←
              if r.isAnchor then some (r, rest) else repeated fuel r rest
            sequence fuel inside (.both before r) n rest

/-- Read how often something may occur. -/
def repeated : Nat → Regex → List Pattern.Mark →
    Option (Regex × List Pattern.Mark)
  | 0, _, _ => none
  | fuel + 1, r, ms =>
      match ms with
      | [] => some (r, [])
      | m :: rest =>
          if Pattern.isBare '*' m then repeated fuel (.times r 0 none) rest
          else if Pattern.isBare '+' m then repeated fuel (.times r 1 none) rest
          else if Pattern.isBare '?' m then
            repeated fuel (.times r 0 (some 1)) rest
          else if Pattern.isBare '\x7b' m then do
            let (least, most, rest) ← interval? rest
            if most.any (fun k => k < least || mostTimes < k)
                || mostTimes < least then none
            else repeated fuel (.times r least most) rest
          else some (r, ms)

/-- Read one piece. -/
def atom : Nat → Nat → List Pattern.Mark → Taken
  | 0, _, _ => none
  | fuel + 1, n, ms =>
      match ms with
      | [] => none
      | m :: rest =>
          if m.2 then some (.exactly m.1, n, rest)
          else
            match m.1 with
            | ['('] => do
                let k := n + 1
                let (r, n, rest) ← alternatives fuel true k rest
                match rest with
                | c :: rest =>
                    if Pattern.isBare ')' c then some (.group k r, n, rest)
                    else none
                | [] => none
            | ['.'] => some (.anyGlyph, n, rest)
            | ['^'] => some (.start, n, rest)
            | ['$'] => some (.stop, n, rest)
            | ['*'] | ['+'] | ['?'] | ['\x7b'] => none
            | ['\\'] =>
                match rest with
                | e :: rest => some (escaped e.1, n, rest)
                | [] => none
            | ['['] =>
                let (inverse, rest) :=
                  match rest with
                  | i :: more =>
                      if Pattern.isBare '^' i then (true, more)
                      else (false, rest)
                  | [] => (false, [])
                (Pattern.sets? true (rest.length + 1) true rest).bind
                  (fun (sets, rest) =>
                    if sets.all isSet then some (.oneOf inverse sets, n, rest)
                    else none)
            | g => some (.exactly g, n, rest)

end

/-- The groups that have been closed at the end, if none is asked for before
    it has been closed. -/
def closed? (groups : List Nat) : Regex → Option (List Nat)
  | .same n => if groups.contains n then some groups else none
  | .group n r => (closed? groups r).map (fun all => n :: all)
  | .times r _ _ => closed? groups r
  | .both a b | .either a b => (closed? groups a).bind (fun g => closed? g b)
  | _ => some groups

/-- The regular expression that marks write. -/
def ofMarks (marks : List Pattern.Mark) : Option Regex :=
  (alternatives (4 * marks.length + 8) false 0 marks).bind
    (fun (r, _, rest) =>
      if rest.isEmpty && (r.closed? []).isSome then some r else none)

end Regex
end NodeFlow.Shell
