import NodeFlow.Shell.Octets

/-! # Patterns

    A pattern matches texts.  An asterisk in it stands for any text, a
    question mark for any glyph, and brackets for one of some glyphs; what is
    quoted stands for itself.  In the extended family a sign and parentheses
    may stand for some of several patterns.

    `Pattern.ends` gives what is left of a text after each beginning of it
    that a pattern matches. -/

namespace NodeFlow.Shell

/-- A glyph: the octets of one character. -/
abbrev Glyph : Type := List Char

/-- A part of what brackets stand for. -/
inductive GlyphSet where
  /-- The glyphs from one to another one. -/
  | range (a b : Char)
  /-- The glyphs of a class. -/
  | named (name : String)
  deriving DecidableEq, Repr

/-- A pattern. -/
inductive Pattern where
  /-- What matches the empty text. -/
  | nothing
  /-- A glyph, and what follows. -/
  | exactly (g : Glyph) (rest : Pattern)
  /-- Any glyph, and what follows. -/
  | anyGlyph (rest : Pattern)
  /-- Any text, and what follows. -/
  | anyText (rest : Pattern)
  /-- One of some glyphs, or none of them if `inverse`, and what follows. -/
  | oneOf (inverse : Bool) (sets : List GlyphSet) (rest : Pattern)
  /-- Some of several patterns, as a sign says, and what follows. -/
  | several (sign : Char) (alternatives : List Pattern) (rest : Pattern)
  deriving Repr, Inhabited

namespace GlyphSet

/-- Whether a character belongs to a class. -/
def inClass (name : String) (c : Char) : Bool :=
  match name with
  | "digit" => c.isDigit
  | "lower" => c.isLower
  | "upper" => c.isUpper
  | "alpha" => c.isAlpha || 0xAA ≤ c.toNat
  | "alnum" => c.isAlphanum || 0xAA ≤ c.toNat
  | "xdigit" => isHex c
  | "space" => isSpace c
  | "blank" => isBlank c
  | "cntrl" => c.toNat < 0x20 || c.toNat = 0x7F
  | "print" => 0x20 ≤ c.toNat && c.toNat != 0x7F
  | "graph" => 0x20 < c.toNat && c.toNat != 0x7F
  | "word" => inName c
  | "ascii" => c.toNat < 0x80
  | "punct" =>
      0x20 < c.toNat && c.toNat < 0x7F && !c.isAlphanum
  | _ => false

/-- Whether a character is in a set. -/
def holds (c : Char) : GlyphSet → Bool
  | .range a b => a ≤ c && c ≤ b
  | .named name => inClass name c

end GlyphSet

namespace Pattern

/-- A glyph in the lower case, if case does not count. -/
def folded (fold : Bool) (g : Glyph) : Glyph :=
  if fold then Octets.lower g else g

/-- Whether one of some sets holds a glyph. -/
def anyHolds (fold : Bool) (g : Glyph) (sets : List GlyphSet) : Bool :=
  let c := Octets.charOf g
  sets.any (fun s => s.holds c)
    || (fold && (sets.any (fun s => s.holds (Octets.charOf (Octets.lower g)))
      || sets.any (fun s => s.holds (Octets.charOf (Octets.upper g)))))

/-- All ends of a text, itself included. -/
def tails {α : Type} : List α → List (List α)
  | [] => [[]]
  | a :: rest => (a :: rest) :: tails rest

/-- Whether two texts, of which the second one is an end of the first, differ
    by nothing. -/
def isAll {α : Type} (text rest : List α) : Bool :=
  text.length == rest.length

/-- Ends of one text without those that occur before. -/
def distinct {α : Type} (ends : List (List α)) : List (List α) :=
  (ends.foldl
    (fun (kept, sizes) r =>
      if sizes.contains r.length then (kept, sizes)
      else (r :: kept, r.length :: sizes))
    (([], []) : List (List α) × List Nat)).1.reverse

mutual

/-- What is left of a text after each beginning of it that a pattern
    matches. -/
def ends (fold : Bool) : Nat → Pattern → List Glyph → List (List Glyph)
  | 0, _, _ => []
  | fuel + 1, p, text =>
      match p with
      | .nothing => [text]
      | .exactly g rest =>
          match text with
          | h :: more =>
              if folded fold g = folded fold h then ends fold fuel rest more
              else []
          | [] => []
      | .anyGlyph rest =>
          match text with
          | _ :: more => ends fold fuel rest more
          | [] => []
      | .anyText rest =>
          match rest with
          | .nothing => tails text
          | rest => distinct ((tails text).flatMap (ends fold fuel rest))
      | .oneOf inverse sets rest =>
          match text with
          | h :: more =>
              if anyHolds fold h sets != inverse then ends fold fuel rest more
              else []
          | [] => []
      | .several sign alternatives rest =>
          let once := endsOfAny fold fuel alternatives text
          let all :=
            match sign with
            | '?' => text :: once
            | '@' => once
            | '!' =>
                (tails text).filter (fun r =>
                  let size := text.length - r.length
                  !(once.any (fun o => text.length - o.length == size)))
            | '+' => once.flatMap (fun r =>
                if isAll text r then [r]
                else r :: endsOfMany fold fuel alternatives r)
            | _ => text :: endsOfMany fold fuel alternatives text
          (distinct all).flatMap (ends fold fuel rest)

/-- What is left of a text after each beginning of it that one of several
    patterns matches. -/
def endsOfAny (fold : Bool) : Nat → List Pattern → List Glyph →
    List (List Glyph)
  | 0, _, _ => []
  | _ + 1, [], _ => []
  | fuel + 1, p :: more, text =>
      ends fold fuel p text ++ endsOfAny fold fuel more text

/-- What is left of a text after each beginning of it that several patterns
    match one after the other, in any order and number. -/
def endsOfMany (fold : Bool) : Nat → List Pattern → List Glyph →
    List (List Glyph)
  | 0, _, _ => []
  | fuel + 1, alternatives, text =>
      distinct ((endsOfAny fold fuel alternatives text).flatMap (fun r =>
        if isAll text r then [] else r :: endsOfMany fold fuel alternatives r))

end

/-- The length of a pattern with all that is in it. -/
def size : Pattern → Nat
  | .nothing => 1
  | .exactly _ rest | .anyGlyph rest | .anyText rest | .oneOf _ _ rest =>
      rest.size + 1
  | .several _ alternatives rest => sizes alternatives + rest.size + 1
where
  /-- The lengths of patterns together. -/
  sizes : List Pattern → Nat
    | [] => 0
    | p :: more => p.size + sizes more + 1

/-- Whether a pattern is made of single glyphs and any texts. -/
def isSimple : Pattern → Bool
  | .nothing => true
  | .exactly _ rest | .anyGlyph rest | .anyText rest | .oneOf _ _ rest =>
      rest.isSimple
  | .several _ _ _ => false

/-- Whether a simple pattern matches all of a text; `again` is where to go on
    when it does not, with one more glyph for the last asterisk. -/
def fitsSimply (fold : Bool) : Nat → Pattern → List Glyph →
    Option (Pattern × List Glyph) → Bool
  | 0, _, _, _ => false
  | fuel + 1, p, text, again =>
      let retry : Bool :=
        match again with
        | some (q, _ :: more) => fitsSimply fold fuel q more (some (q, more))
        | _ => false
      match p, text with
      | .nothing, [] => true
      | .anyText rest, text => fitsSimply fold fuel rest text (some (rest, text))
      | .exactly g rest, h :: more =>
          if folded fold g = folded fold h then
            fitsSimply fold fuel rest more again
          else retry
      | .anyGlyph rest, _ :: more => fitsSimply fold fuel rest more again
      | .oneOf inverse sets rest, h :: more =>
          if anyHolds fold h sets != inverse then
            fitsSimply fold fuel rest more again
          else retry
      | _, _ => retry

/-- Whether a pattern matches all of a text. -/
def fits (fold : Bool) (p : Pattern) (text : List Glyph) : Bool :=
  if p.isSimple then
    fitsSimply fold ((p.size + 2) * (text.length + 2) + 8) p text none
  else
    (ends fold (2 * (p.size + 2) * (text.length + 2)) p text).any List.isEmpty

/-! ## Reading patterns -/

/-- A glyph of a pattern and whether it was quoted. -/
abbrev Mark : Type := Glyph × Bool

/-- Whether a mark is a character without quotes. -/
def isBare (c : Char) (m : Mark) : Bool := m.1 == [c] && !m.2

/-- The name of a class up to its end, and what follows. -/
def className? : List Mark → Option (String × List Mark)
  | a :: b :: rest =>
      if isBare ':' a && isBare ']' b then some ("", rest)
      else
        (className? (b :: rest)).map
          (fun (n, r) => (String.singleton (Octets.charOf a.1) ++ n, r))
  | _ => none

/-- The glyph between dots or equals signs and their brackets, after the
    opening one, and what follows. -/
def single? : List Mark → Option (Char × List Mark)
  | opening :: m :: closing :: last :: rest =>
      let encloses (c : Char) : Bool := isBare c opening && isBare c closing
      if isBare ']' last && (encloses '.' || encloses '=') then
        some (Octets.charOf m.1, rest)
      else none
  | _ => none

/-- The sets up to a closing bracket, and what follows.  A bracket right at
    the beginning closes nothing.  Single glyphs have brackets of their own, if
    these are `known`. -/
def sets? (known : Bool) : Nat → Bool → List Mark →
    Option (List GlyphSet × List Mark)
  | 0, _, _ => none
  | _ + 1, _, [] => none
  | fuel + 1, first, m :: rest =>
      if isBare ']' m && !first then some ([], rest)
      else
        let alone := if known && isBare '[' m then single? rest else none
        let named :=
          match rest with
          | colon :: more =>
              if isBare '[' m && isBare ':' colon then className? more
              else none
          | [] => none
        let (here, rest) : GlyphSet × List Mark :=
          match named.map (fun (name, rest) => (GlyphSet.named name, rest))
            <|> alone.map (fun (c, rest) => (GlyphSet.range c c, rest)),
            rest with
          | some found, _ => found
          | none, dash :: n :: more =>
              if isBare '-' dash && !isBare ']' n then
                (.range (Octets.charOf m.1) (Octets.charOf n.1), more)
              else (.range (Octets.charOf m.1) (Octets.charOf m.1), rest)
          | none, rest =>
              (.range (Octets.charOf m.1) (Octets.charOf m.1), rest)
        (sets? known fuel false rest).map (fun (more, r) => (here :: more, r))

/-- The marks of each alternative up to a closing parenthesis, and what
    follows. -/
def alternatives? (level : Nat) : List Mark → Option (List (List Mark) × List Mark)
  | [] => none
  | m :: rest =>
      if isBare ')' m && level = 0 then some ([[]], rest)
      else if isBare '|' m && level = 0 then
        (alternatives? level rest).map (fun (all, r) => ([] :: all, r))
      else
        let level :=
          if isBare '(' m then level + 1
          else if isBare ')' m then level - 1
          else level
        (alternatives? level rest).map (fun (all, r) =>
          match all with
          | first :: more => ((m :: first) :: more, r)
          | [] => ([[m]], r))

/-- The sign that a mark is if it makes a pattern of the parentheses after
    it. -/
def sign? (m : Mark) : Option Char :=
  ['?', '*', '+', '@', '!'].find? (fun c => isBare c m)

/-- The pattern that marks write; signs before parentheses count if
    `grouped`. -/
def read (grouped : Bool) : Nat → List Mark → Pattern
  | 0, _ => .nothing
  | _ + 1, [] => .nothing
  | fuel + 1, m :: rest =>
      let group : Option (Char × List (List Mark) × List Mark) :=
        match grouped, sign? m, rest with
        | true, some c, next :: more =>
            if isBare '(' next then
              (alternatives? 0 more).map (fun (all, r) => (c, all, r))
            else none
        | _, _, _ => none
      match group with
      | some (c, all, r) =>
          .several c (all.map (read grouped fuel)) (read grouped fuel r)
      | none =>
          let brackets :=
            if isBare '[' m then
              match rest with
              | n :: more =>
                  if isBare '!' n || isBare '^' n then
                    (sets? false (more.length + 1) true more).map
                      (fun (s, r) => (true, s, r))
                  else
                    (sets? false (rest.length + 1) true rest).map
                      (fun (s, r) => (false, s, r))
              | [] => none
            else none
          match brackets with
          | some (inverse, sets, r) => .oneOf inverse sets (read grouped fuel r)
          | none =>
              let more := read grouped fuel rest
              if isBare '*' m then
                match more with
                | .anyText p => .anyText p
                | p => .anyText p
              else if isBare '?' m then .anyGlyph more
              else .exactly m.1 more

/-- Marks without the backslashes that quote the mark behind them. -/
def unescaped : List Mark → List Mark
  | [] => []
  | [m] => [m]
  | m :: n :: rest =>
      if isBare '\\' m then (n.1, true) :: unescaped rest
      else m :: unescaped (n :: rest)

/-- The pattern that marks write. -/
def ofMarks (grouped : Bool) (marks : List Mark) : Pattern :=
  read grouped (marks.length + 1) (unescaped marks)

/-- The pattern that a text without quotes writes. -/
def ofText (e : Encoding) (grouped : Bool) (text : String) : Pattern :=
  ofMarks grouped ((Octets.glyphs e text.toList).map (fun g => (g, false)))

/-- Whether marks write more than a text that stands for itself. -/
def isWild (grouped : Bool) (marks : List Mark) : Bool :=
  let rec go : Pattern → Bool
    | .nothing => false
    | .exactly _ rest => go rest
    | _ => true
  go (ofMarks grouped marks)

/-! ## Using patterns -/

/-- The text without the beginning, or the end when `atEnd`, that a pattern
    matches: as much as possible if `longest`, and as little otherwise. -/
def trim (p : Pattern) (atEnd longest : Bool) (text : List Glyph) :
    List Glyph :=
  let counts := List.range (text.length + 1)
  let counts := if longest then counts.reverse else counts
  if atEnd then
    match counts.find? (fun n => p.fits false (text.drop (text.length - n))) with
    | some n => text.take (text.length - n)
    | none => text
  else
    match counts.find? (fun n => p.fits false (text.take n)) with
    | some n => text.drop n
    | none => text

/-- Whether a pattern matches an end of a text. -/
def fitsEnd (p : Pattern) (text : List Glyph) : Bool :=
  (tails text).any (p.fits false)

/-- Texts one behind the other without the beginning, or the end when `atEnd`,
    that a pattern matches in one of them.  With an end goes everything behind
    it; the shortest one is looked for from the last text on, and all else in
    the first text. -/
def trimAll (p : Pattern) (atEnd longest : Bool) :
    List (List Glyph) → List (List Glyph)
  | [] => []
  | text :: more =>
      match atEnd, longest with
      | false, false => p.trim false false text :: more
      | false, true =>
          if p.fits false text then [[]] else p.trim false true text :: more
      | true, true =>
          if p.fitsEnd text then [p.trim true true text] else text :: more
      | true, false =>
          if more.any p.fitsEnd then text :: trimAll p true false more
          else if p.fitsEnd text then [p.trim true false text]
          else text :: more

/-- What is left of a text after the longest beginning that a pattern
    matches. -/
def afterLongest? (p : Pattern) (text : List Glyph) : Option (List Glyph) :=
  let all := ends false (2 * (p.size + 2) * (text.length + 2)) p text
  all.foldl
    (fun best r =>
      match best with
      | some b => if r.length < b.length then some r else some b
      | none => some r)
    none

end Pattern
end NodeFlow.Shell
