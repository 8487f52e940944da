import NodeFlow.Shell.Assign
import NodeFlow.Shell.Brace
import NodeFlow.Shell.Declaration
import NodeFlow.Shell.Field
import NodeFlow.Shell.Paths
import NodeFlow.Shell.Words

/-! # Expanding words

    A word becomes fields: its parameters, its arithmetic and its commands are
    replaced, what comes out is split at separators, and what is left may be a
    pattern for paths.  How commands are run is a parameter here.

    Fuel bounds the depth of the parts of a word. -/

namespace NodeFlow.Shell

/-- How commands in a word are run. -/
structure Runner where
  /-- The output of commands. -/
  output : List Command → Act String
  /-- The output of commands that have not been read. -/
  unread : String → Act String
  /-- The path of a file with the output of commands, or of one that gives
      them their input. -/
  channel : Bool → List Command → Act String
  /-- What stands before a command that is traced. -/
  prompt : Act String

/-- Show a command, if the shell traces what it does. -/
def Runner.trace (r : Runner) (line : Act String) : Act Unit := do
  if ← hasHabit "xtrace" then sayLine ((← r.prompt) ++ (← line))

/-- How what is written without quotes is seen. -/
inductive Manner where
  /-- As it is written. -/
  | bare
  /-- As what comes out of an expansion. -/
  | soft
  /-- As if it were quoted. -/
  | quoted
  deriving DecidableEq, Repr

/-- The values of a parameter. -/
inductive Values where
  /-- One value, or none. -/
  | one (v : Option String)
  /-- Several values; as one text if `joined`. -/
  | many (all : List String) (joined : Bool)
  deriving Repr

/-- What stands between several values in one text. -/
inductive Between where
  /-- A space. -/
  | space
  /-- The first separator, or a space if there is none. -/
  | separator
  /-- The first separator between quotes, and a space without them. -/
  | quotes
  deriving DecidableEq, Repr

namespace Expand

/-! ## Changes -/

/-- The characters that cannot be part of what commands have printed, and the
    line ends behind it, are left out. -/
def outputText (s : String) : String :=
  let cs := s.toList.filter (fun c => c.toNat != 0)
  String.ofList (cs.reverse.dropWhile (fun c => c = '\n')).reverse

/-- What is said of a parameter that must have a value, unless the snippet
    says what. -/
def missingText (d : Dialect) (orEmpty : Bool) : String :=
  match d, orEmpty with
  | _, false => "parameter not set"
  | .plain, true => "parameter not set or null"
  | .extended, true => "parameter null or not set"

/-- Complain that there is no such change in a text. -/
def badSubstitution {α : Type} (ends : Bool) (text : String) : Act α := do
  match ← dialect with
  | .plain => fault "Bad substitution"
  | .extended =>
      protest (text ++ ": bad substitution")
      giveUp ends

/-- A part of a text: from a place on, and so many glyphs. -/
def cutOut (e : Encoding) (text : String) (start : Int) (size : Option Int) :
    Act String := do
  let gs := Octets.glyphs e text.toList
  let n : Int := gs.length
  let first := if start < 0 then n + start else start
  if first < 0 || n < first then return ""
  else
    let last :=
      match size with
      | none => n
      | some k => if k < 0 then n + k else min n (first + k)
    if last < first then
      match size with
      | some k =>
          if k < 0 then
            fault (toString k ++ ": substring expression < 0")
          else return ""
      | none => return ""
    else
      return String.ofList
        ((gs.drop first.toNat).take (last - first).toNat).flatten

/-- Some of several texts, of which the first one stands at place zero. -/
def cutItems (items : List (Nat × String)) (start : Int) (size : Option Int) :
    Act (List String) := do
  let n : Int := Content.nextPlace items
  let first := if start < 0 then n + start else start
  if first < 0 then return []
  else
    let rest := items.filter (fun e => first ≤ (e.1 : Int))
    match size with
    | none => return rest.map (·.2)
    | some k =>
        if k < 0 then fault (toString k ++ ": substring expression < 0")
        else return (rest.take k.toNat).map (·.2)

/-- What stands for a match: characters, and the match itself at some
    places. -/
abbrev Template : Type := List (Option Char)

/-- The template that atoms write.  An ampersand stands for the match if it has
    a `meaning`, unless it was quoted or a backslash stands in front of it. -/
def Template.ofAtoms (meaning : Bool) : List Atom → Template
  | [] => []
  | .soft '\\' :: .soft c :: rest =>
      if meaning && (c = '&' || c = '\\') then
        some c :: Template.ofAtoms meaning rest
      else some '\\' :: Template.ofAtoms meaning (.soft c :: rest)
  | .keep c :: rest => some c :: Template.ofAtoms meaning rest
  | .bare c :: rest | .soft c :: rest =>
      (if c = '&' && meaning then none else some c)
        :: Template.ofAtoms meaning rest
  | .boundary shown _ :: rest =>
      shown.toList.map some ++ Template.ofAtoms meaning rest
  | .quote :: rest => Template.ofAtoms meaning rest

/-- The text of a template for a match. -/
def Template.fill (t : Template) (matched : List Glyph) : List Char :=
  t.flatMap (fun c =>
    match c with
    | some c => [c]
    | none => matched.flatten)

/-- Replace every match of a pattern, up to so many. -/
def replaceFrom (p : Pattern) (t : Template) :
    Nat → Nat → List Glyph → List Char
  | 0, _, text => text.flatten
  | _, 0, text => text.flatten
  | _ + 1, _ + 1, [] => []
  | fuel + 1, count + 1, g :: rest =>
      match p.afterLongest? (g :: rest) with
      | some after =>
          let size := (g :: rest).length - after.length
          if size = 0 then g ++ replaceFrom p t fuel (count + 1) rest
          else
            t.fill ((g :: rest).take size) ++ replaceFrom p t fuel count after
      | none => g ++ replaceFrom p t fuel (count + 1) rest

/-- A text with matches of a pattern replaced. -/
def replace (e : Encoding) (which : Occurrence) (p : Pattern) (t : Template)
    (text : String) : String :=
  let gs := Octets.glyphs e text.toList
  match which with
  | .first | .every =>
      let count := if which = .first then 1 else gs.length + 1
      if gs.isEmpty && p.fits false [] then String.ofList (t.fill [])
      else String.ofList (replaceFrom p t (gs.length + 1) count gs)
  | .atStart =>
      match p.afterLongest? gs with
      | some after =>
          String.ofList
            (t.fill (gs.take (gs.length - after.length)) ++ after.flatten)
      | none => text
  | .atEnd =>
      let counts := List.range (gs.length + 1)
      match counts.find? (fun n => p.fits false (gs.drop n)) with
      | some n =>
          String.ofList ((gs.take n).flatten ++ t.fill (gs.drop n))
      | none => text

/-- A glyph with its letters in another case. -/
def recaseGlyph (how : Recase) (g : Glyph) : Glyph :=
  match how with
  | .upper => Octets.upper g
  | .lower => Octets.lower g
  | .other =>
      let up := Octets.upper g
      if up == g then Octets.lower g else up

/-- A text with letters in another case, where glyphs match a pattern. -/
def recase (e : Encoding) (how : Recase) (all : Bool) (p : Option Pattern)
    (text : String) : String :=
  let change (g : Glyph) : Glyph :=
    match p with
    | none => recaseGlyph how g
    | some p => if p.fits false [g] then recaseGlyph how g else g
  match Octets.glyphs e text.toList with
  | [] => ""
  | g :: rest =>
      String.ofList
        (change g ++ (if all then rest.flatMap change else rest.flatten))

/-- A text with the escapes of a text between a dollar sign and quotes carried
    out. -/
def unescaped (e : Encoding) (s : String) : String :=
  match Words.escapedText e 0
      ((s.toList.flatMap (fun c => if c = '\'' then ['\\', '\''] else [c]))
        ++ ['\'']) with
  | some (cs, _) => String.ofList cs
  | none => s

/-! ## Parameters -/

/-- The name of a parameter in complaints. -/
def shownName : Parameter → String
  | .named name => name
  | .item name index => name ++ "[" ++ index.source ++ "]"
  | .items name joined => name ++ (if joined then "[*]" else "[@]")
  | .place n => toString n
  | .sign c => String.singleton c

/-- The parameter that a text names, if it names one. -/
def parameterOf? (text : String) : Option Parameter :=
  let cs := text.toList
  if isName text then some (.named text)
  else if isNumber text then some (.place (decimalValue cs))
  else
    match cs with
    | [c] => if Words.isSign c then some (.sign c) else none
    | cs =>
        match nameAhead cs with
        | (name, '[' :: inside) =>
            if name.isEmpty then none
            else
              match Arithmetic.subscript? 0 inside with
              | some (index, []) =>
                  let i := String.ofList index
                  if i = "@" then some (.items name false)
                  else if i = "*" then some (.items name true)
                  else some (.item name (.mk [.literal i] i))
              | _ => none
        | _ => none

/-- The name of a parameter that must have a value. -/
def askedName (d : Dialect) (q : Parameter) (indirect : Bool)
    (source : String) : String :=
  let name := shownName q
  match d, q with
  | .plain, _ => name
  | .extended, q =>
      if indirect then "!" ++ name
      else
        match q with
        | .place _ | .sign _ =>
            if source.startsWith "$\x7b" then name else "$" ++ name
        | _ => name

/-- The items of a parameter with their places; those of a table are counted
    from one. -/
def placedItems (c : Content) : List (Nat × String) :=
  match c with
  | .table entries => entries.zipIdx.map (fun (e, i) => (i + 1, e.2))
  | c => c.asItems

/-- The name that a parameter stands for by its trait, when it is asked for
    that name. -/
def refersTo? (q : Parameter) (indirect : Bool) : Act (Option String) := do
  match q, indirect with
  | .named name, true =>
      match (← session).store.get? name with
      | some v => return if v.refers then some (v.content.text?.getD "") else none
      | none => return none
  | _, _ => return none

/-- What stands between several values. -/
def atomBetween (s : Session) (quoted joined : Bool) (between : Between) :
    Atom :=
  let first := s.separators.head?
  match s.dialect with
  | .plain => .boundary first none
  | .extended =>
      let shown :=
        if joined then first
        else
          match between, quoted with
          | .space, _ | .quotes, false => some ' '
          | .separator, _ | .quotes, true => some (first.getD ' ')
      .boundary shown (if quoted then none else first)

/-- The atoms of values. -/
def atomsOf (quoted : Bool) (between : Between) : Values → Act (List Atom)
  | .one v => return Atom.ofText (v.getD "") quoted
  | .many all joined => do
      let s ← session
      if quoted && joined then
        let first := String.ofList s.separators.head?.toList
        return Atom.ofText (first.intercalate all) true
      else
        return Atom.ofTexts quoted (atomBetween s quoted joined between) all

/-- Every value changed. -/
def mapValues (f : String → Act String) : Values → Act Values
  | .one none => return .one none
  | .one (some v) => do return .one (some (← f v))
  | .many all joined => do return .many (← all.mapM f) joined

/-- The place in the stack of places that digits count from its beginning or
    its end. -/
def stacked? (extended fromEnd : Bool) (digits : List Char) :
    Act (Option String) := do
  let s ← session
  let all := s.location :: s.stack
  let n := decimalValue digits
  if !extended || digits.isEmpty || !digits.all Char.isDigit
      || all.length ≤ n then
    return none
  else
    let place := if fromEnd then all.reverse[n]? else all[n]?
    return place.map Paths.ofLocation

/-- The home directory of a user, if it is known. -/
def homeOf? (user : String) : Act (Option String) := do
  let extended ← isExtended
  match user with
  | "" =>
      match ← textOf? "HOME" with
      | some home => return some home
      | none => return if extended then some "/root" else none
  | "+" => if extended then textOf? "PWD" else return none
  | "-" => if extended then textOf? "OLDPWD" else return none
  | "root" => return some "/root"
  | user => do
      match user.toList with
      | '+' :: ds => stacked? extended false ds
      | '-' :: ds => stacked? extended true ds
      | ds => stacked? extended false ds

/-- A text with a home directory in place of the tilde at its beginning, as
    atoms; `ends` tells whether the text is the end of the word. -/
def tilde (text : List Char) (stops : Char → Bool) (ends : Bool) :
    Act (List Atom × List Char) := do
  match text with
  | '~' :: rest =>
      let user := rest.takeWhile (fun c => !stops c)
      let after := rest.drop user.length
      if after.isEmpty && !ends then return ([], text)
      else
        match ← homeOf? (String.ofList user) with
        | some home => return (.quote :: home.toList.map .keep, after)
        | none => return ([], text)
  | text => return ([], text)

/-- The atoms of characters in an assignment, with home directories in place
    of tildes after colons; `start` tells whether a tilde may stand right
    here. -/
def tildes (ends : Bool) : Nat → Bool → List Char → Act (List Atom)
  | 0, _, cs => return cs.map .bare
  | fuel + 1, start, cs => do
      let (atoms, cs) ←
        if start then tilde cs (fun c => c = '/' || c = ':') ends
        else pure ([], cs)
      let here := cs.takeWhile (fun c => c != ':')
      match cs.drop here.length with
      | [] => return atoms ++ here.map .bare
      | c :: rest =>
          return atoms ++ here.map .bare ++ .bare c
            :: (← tildes ends fuel true rest)

/-- Where tildes have a meaning. -/
inductive Tildes where
  /-- Nowhere. -/
  | nowhere
  /-- At the beginning. -/
  | first
  /-- At the beginning and after colons. -/
  | all
  deriving DecidableEq, Repr

variable (r : Runner)

/-- Whether a part stands for all arguments or items. -/
def isAll : Part → Bool
  | .param (.sign '@') false _ _ => true
  | .param (.items _ false) false _ _ => true
  | .param (.named _) true _ _ => true
  | .names _ false | .places _ false => true
  | _ => false

/-- Whether parts between quotes are no field: one of them stands for all
    arguments or items, of which there are none, and the others are empty. -/
def vanishes : Dialect → List (Part × List Atom) → Bool
  | .plain, [(.param (.sign '@') false .value _, [])] => true
  | .plain, _ => false
  | .extended, all =>
      all.any (fun (p, atoms) => isAll p && atoms.isEmpty)
        && all.all (fun (_, atoms) => atoms.all (fun a => a = .quote))

mutual

/-- The atoms of parts. -/
def parts : Nat → Manner → List Part → Act (List Atom)
  | 0, _, _ => throw .endless
  | _ + 1, _, [] => return []
  | fuel + 1, m, p :: rest => do
      let first ← part fuel m p
      return first ++ (← parts fuel m rest)

/-- The atoms of a part. -/
def part : Nat → Manner → Part → Act (List Atom)
  | 0, _, _ => throw .endless
  | fuel + 1, m, p => do
      let quoted := m = .quoted
      match p with
      | .plain s =>
          match m with
          | .bare => return s.toList.map .bare
          | .soft => return s.toList.map .soft
          | .quoted => return s.toList.map .keep
      | .literal s => return .quote :: s.toList.map .keep
      | .quoted inner =>
          let all ← inner.mapM (fun p => do
            return (p, ← part fuel .quoted p))
          if vanishes (← dialect) all then return []
          else return .quote :: all.flatMap (fun (_, atoms) => atoms)
      | .param q indirect change source =>
          parameter fuel quoted q indirect change source
      | .names start joined =>
          let s ← session
          let names := s.store.keys.filter (fun n => n.startsWith start)
          atomsOf quoted .space (.many names joined)
      | .places name joined =>
          let v ← variableOf name
          if v.refers then atomsOf quoted .space (.one v.content.text?)
          else
            let c ← contentOf name
            atomsOf quoted .space (.many c.keys joined)
      | .arithmetic inner _ =>
          let text := Atom.joined (← parts fuel .quoted inner)
          let n ← calculate text
          return Atom.ofText (toString n) quoted
      | .output body _ =>
          return Atom.ofText (outputText (← r.output body)) quoted
      | .unread code _ =>
          return Atom.ofText (outputText (← r.unread code)) quoted
      | .channel gives body _ =>
          return Atom.ofText (← r.channel gives body) quoted
      | .list _ source => return Atom.ofText source quoted
      | .faulty complaints _ =>
          for (line, text) in complaints do
            match line with
            | none => protest text
            | some n =>
                let s ← session
                sayLine (s.shownName ++ ": command substitution: line "
                  ++ toString (n + s.line) ++ ": " ++ text)
          giveUp false

/-- The text of parts, as arithmetic or a value sees it. -/
def text : Nat → List Part → Act String
  | 0, _ => throw .endless
  | fuel + 1, ps => do return Atom.joined (← parts fuel .bare ps)

/-- The pattern that parts write. -/
def pattern : Nat → List Part → Act Pattern
  | 0, _ => throw .endless
  | fuel + 1, ps => do
      let atoms ← parts fuel .bare ps
      let s ← session
      return Pattern.ofMarks (s.features.contains "extglob")
        (marksOf s.encoding (Atom.letters atoms))

/-- The place of an item that a word names, in a list or a table. -/
def keyOf : Nat → String → Word → Act (String ⊕ Option Nat)
  | 0, _, _ => throw .endless
  | fuel + 1, name, index => do
      let c ← contentOf name
      let key ← text fuel index.parts
      match c with
      | .table _ => return .inl key
      | c => do
          let n ← calculate key
          match c.place? n with
          | some place => return .inr (some place)
          | none =>
              protest (name ++ ": bad array subscript")
              return .inr none

/-- The values of a parameter. -/
def values : Nat → Parameter → Act Values
  | 0, _ => throw .endless
  | fuel + 1, q => do
      match q with
      | .named name => return .one (← textOf? name)
      | .item name index =>
          let c ← contentOf name
          match ← keyOf fuel name index, c with
          | .inl key, .table entries => return .one (entries.lookup key)
          | .inr (some place), c => return .one (c.asItems.lookup place)
          | _, _ => return .one none
      | .items name joined =>
          let c ← contentOf name
          return .many c.values joined
      | .place n => return .one (← argument? n)
      | .sign '@' => return .many (← session).args false
      | .sign '*' => return .many (← session).args true
      | .sign c => return .one (← signValue? c)

/-- The parameter that the value of another one names; nothing if that one has
    been declared only. -/
def target : Nat → Parameter → Act (Option Parameter)
  | 0, _ => throw .endless
  | fuel + 1, q => do
      let named (t : String) : Act (Option Parameter) :=
        match parameterOf? t with
        | some p => return some p
        | none => fault (t ++ ": invalid variable name")
      match q with
      | .named name =>
          let known := (← session).store.get? name
          let v := known.getD {}
          if v.refers then
            match v.content with
            | .text t => return some (.named t)
            | _ => return some q
          else
            match ← textOf? name with
            | some t => named t
            | none =>
                if known.isSome then return none
                else fault (name ++ ": invalid indirect expansion")
      | q => do
          match ← values fuel q with
          | .one (some t) => named t
          | .many (t :: rest) _ => named (" ".intercalate (t :: rest))
          | _ => fault (shownName q ++ ": invalid indirect expansion")

/-- The size of a value, or of a list or a table, that a parameter has in the
    extended family. -/
def sizeOf : Nat → Parameter → Act (Option Nat)
  | 0, _ => throw .endless
  | fuel + 1, q => do
      let e := (← session).encoding
      let size (vs : Values) : Option Nat :=
        match vs with
        | .one v => v.map (Octets.size e)
        | .many all _ => some all.length
      match q with
      | .item name _ | .items name _ =>
          if ← hasHabit "nounset" then
            let c ← contentOf name
            if !c.isMany || (← variableOf name).bare then
              fault (name ++ ": unbound variable")
          return some ((size (← values fuel q)).getD 0)
      | q => return size (← values fuel q)

/-- The atoms of a parameter with a change. -/
def parameter : Nat → Bool → Parameter → Bool → Change → String →
    Act (List Atom)
  | 0, _, _, _, _, _ => throw .endless
  | fuel + 1, quoted, asked, indirect, change, source => do
      let d ← dialect
      let s ← session
      let e := s.encoding
      let own ← refersTo? asked indirect
      match own, change with
      | some name, _ => return Atom.ofText name quoted
      | none, .unknown false whole => badSubstitution false whole
      | none, change =>
          let aim ← if indirect then target fuel asked else pure (some asked)
          let q := aim.getD asked
          let counted := d = .extended && change matches .size
          let vs ←
            if aim.isNone || counted then pure (.one none)
            else values fuel q
          let given (changed : Act (List Atom)) : Act (List Atom) :=
            match vs with
            | .one none | .many [] _ => atomsOf quoted .space vs
            | _ => changed
          let demand : Act Unit := do
            if ← hasHabit "nounset" then
              missing (askedName d asked indirect source)
          let needed : Act Unit :=
            match vs with
            | .one none => demand
            | _ => return ()
          match change with
          | .unknown _ whole => given (badSubstitution true whole)
          | .value =>
              needed
              atomsOf quoted .space vs
          | .size =>
              let n ←
                match d, vs with
                | .extended, _ => do
                    match ← (if aim.isNone then pure none
                      else sizeOf fuel q) with
                    | some n => pure n
                    | none => do
                        demand
                        pure 0
                | .plain, .one v => do
                    needed
                    pure (Octets.size e (v.getD ""))
                | .plain, .many all _ =>
                    let first := String.ofList s.separators.head?.toList
                    pure (Octets.size e (first.intercalate all))
              return Atom.ofText (toString n) quoted
          | .substitute how orEmpty word =>
              let missing :=
                match vs with
                | .one none => true
                | .one (some v) => orEmpty && v.isEmpty
                | .many [] _ => orEmpty || d = .extended
                | .many [v] _ => orEmpty && v.isEmpty
                | .many all joined =>
                    orEmpty && quoted && joined && s.separators.isEmpty
                      && all.all String.isEmpty
              let inner : Act (List Atom) :=
                parts fuel (if quoted then .quoted else .soft) word
              match how, missing with
              | .whenPresent, false | .whenAbsent, true => inner
              | .whenPresent, true =>
                  return match vs with
                    | .many [] false => []
                    | _ => if quoted then [.quote] else []
              | _, false => atomsOf quoted .space vs
              | .assigned, true =>
                  let value := Atom.joined (← inner)
                  match q with
                  | .named name => assignText name false value
                  | .item name index =>
                      assignItem name (← text fuel index.parts) false value
                  | q =>
                      match d with
                      | .plain =>
                          fault (shownName q ++ ": bad variable name")
                      | .extended =>
                          fault ("$" ++ shownName q
                            ++ ": cannot assign in this way")
                  match q with
                  | .named name =>
                      return Atom.ofText ((← textOf? name).getD "") quoted
                  | _ => return Atom.ofText value quoted
              | .demanded, true =>
                  let said := Atom.joined (← inner)
                  let said :=
                    if word.isEmpty then missingText d orEmpty else said
                  protest (shownName q ++ ": " ++ said)
                  giveUp true
          | .trim atEnd longest ps =>
              needed
              let cut : Act (List Atom) := do
                let p ← pattern fuel ps
                let trimmed (v : String) : Act String := do
                  let gs := Octets.glyphs e v.toList
                  return String.ofList (p.trim atEnd longest gs).flatten
                match d, vs with
                | .plain, .many all joined =>
                    let first := String.ofList s.separators.head?.toList
                    let all :=
                      if quoted && joined then [first.intercalate all] else all
                    let left := p.trimAll atEnd longest
                      (all.map (fun v => Octets.glyphs e v.toList))
                    atomsOf quoted .separator (.many
                      (left.map (fun gs => String.ofList gs.flatten)) joined)
                | _, vs => atomsOf quoted .separator (← mapValues trimmed vs)
              match d, vs with
              | .plain, .many [] _ => cut
              | .extended, .one (some "") => atomsOf quoted .space vs
              | _, _ => given cut
          | .replace which ps by_ =>
              needed
              given (do
                let p ← pattern fuel ps
                let atoms ← parts fuel .bare by_
                let whole ← hasFeature "patsub_replacement"
                let template := Template.ofAtoms whole atoms
                let replaced (v : String) : Act String :=
                  return if ps.isEmpty && (which = .first || which = .every)
                    then v else replace e which p template v
                atomsOf quoted .quotes (← mapValues replaced vs))
          | .slice start size =>
              needed
              let number (ps : List Part) : Act Int := do
                calculateFor (shownName q)
                  (Atom.joined (← parts fuel .quoted ps))
              let cut : Act (List Atom) := do
                let a ← number start
                let k ←
                  match size with
                  | none => pure none
                  | some ps => do pure (some (← number ps))
                match q, vs with
                | .sign _, .many _ joined =>
                    let s ← session
                    let items := (s.name :: s.args).zipIdx.map
                      (fun (t, i) => (i, t))
                    atomsOf quoted .quotes (.many (← cutItems items a k) joined)
                | .items name _, .many _ joined =>
                    let c ← contentOf name
                    let items := placedItems c
                    atomsOf quoted .quotes (.many (← cutItems items a k) joined)
                | _, vs =>
                    atomsOf quoted .quotes
                      (← mapValues (fun v => cutOut e v a k) vs)
              match q with
              | .sign _ => cut
              | _ => given cut
          | .recase how all ps =>
              needed
              given (do
                let p ← if ps.isEmpty then pure none
                  else do pure (some (← pattern fuel ps))
                atomsOf quoted .quotes
                  (← mapValues (fun v => return recase e how all p v) vs))
          | .shown letter => do
              let name := shownName q
              let base := (nameAhead name.toList).1
              let v ← variableOf base
              let shown (t : String) : Act (List Atom) :=
                return Atom.ofText t quoted
              let mapped (f : String → String) : Act (List Atom) := do
                atomsOf quoted .separator
                  (← mapValues (fun v => return f v) vs)
              let holds :=
                match v.content with
                | .list items => !items.isEmpty
                | .table entries => !entries.isEmpty
                | _ => false
              match letter with
              | 'a' =>
                  match q with
                  | .named _ =>
                      unless holds do needed
                      shown v.letters
                  | .item _ _ =>
                      needed
                      shown v.letters
                  | .items _ _ =>
                      if v.bare then shown v.letters
                      else mapped (fun _ => v.letters)
                  | _ =>
                      needed
                      mapped (fun _ => v.letters)
              | 'A' =>
                  match q, vs, v.content with
                  | .named n, .one (some t), _ =>
                      shown (Declaration.assignmentOf e n v (some t))
                  | .named n, _, .list _ | .named n, _, .table _ =>
                      unless holds do needed
                      shown (Declaration.assignmentOf e n v none)
                  | .items _ _, _, .nothing => return []
                  | .items n _, _, _ => shown (Declaration.assignment e n v)
                  | _, _, _ =>
                      needed
                      return []
              | 'K' | 'k' =>
                  needed
                  let c ← contentOf base
                  match q, c.isMany with
                  | .items _ joined, true =>
                      let pairs := c.keys.zip c.values
                      if letter = 'k' then
                        atomsOf quoted .separator (.many
                          (pairs.flatMap (fun (a, b) => [a, b])) joined)
                      else
                        let texts := pairs.map (fun (a, b) =>
                          a ++ " " ++ Quote.double b)
                        let all := " ".intercalate texts
                        let all := if c.isTable then all ++ " " else all
                        shown all
                  | _, _ => mapped (Quote.reusable e)
              | letter =>
                  needed
                  mapped (fun v =>
                    match letter with
                    | 'Q' => Quote.reusable e v
                    | 'E' => unescaped e v
                    | 'U' => recase e .upper true none v
                    | 'u' => recase e .upper false none v
                    | 'L' => recase e .lower true none v
                    | _ => v)

end

/-- More levels than the parts of a word have. -/
def deepestPart : Nat := 100000

/-- The atoms of a word, with home directories in place of tildes. -/
def atoms (where_ : Tildes) (ps : List Part) : Act (List Atom) := do
  match where_, ps with
  | .nowhere, ps => parts r deepestPart .bare ps
  | .first, .plain s :: rest =>
      let extended ← isExtended
      let stops (c : Char) : Bool := c = '/' || (c = ':' && extended)
      let (before, after) ← tilde s.toList stops rest.isEmpty
      return before ++ after.map .bare
        ++ (← parts r deepestPart .bare rest)
  | .first, ps => parts r deepestPart .bare ps
  | .all, ps =>
      let rec go : Bool → List Part → Act (List Atom)
        | _, [] => return []
        | start, .plain s :: rest => do
            let here ← tildes rest.isEmpty (s.length + 1) start s.toList
            let next := s.toList.getLast? = some ':'
            return here ++ (← go next rest)
        | _, p :: rest => do
            let here ← part r deepestPart .bare p
            return here ++ (← go false rest)
      go true ps

/-- The text of a word as a value. -/
def value (w : Word) : Act String := do
  return Atom.joined (← atoms r .all w.parts)

/-- The text of a word that is one field. -/
def oneField (w : Word) : Act String := do
  return Atom.joined (← atoms r .first w.parts)

/-- The letters of a word that may be a pattern. -/
def letters (w : Word) : Act (List Letter) := do
  return Atom.letters (← atoms r .first w.parts)

/-- What decides which paths match in a shell. -/
def globRules (s : Session) : GlobRules :=
  ⟨s.dialect, s.encoding, s.features.contains "extglob", s.features.contains "dotglob",
    s.features.contains "nocaseglob"⟩

/-- The fields that letters stand for: the paths that they match, or
    themselves. -/
def found (letters : List Letter) : Act (List String) := do
  let s ← session
  let text := textOfLetters letters
  let mayMatch := letters.any (fun l =>
    !l.2 && (l.1 = '*' || l.1 = '?' || l.1 = '['
      || (l.1 = '(' && s.features.contains "extglob")))
  if !mayMatch || s.habits.contains "noglob" then return [text]
  else
    let g := globRules s
    if !Pattern.isWild g.grouped (marksOf s.encoding letters) then
      return [text]
    else
      match paths g (← world).files s.location letters with
      | [] =>
          if s.features.contains "failglob" then
            fault ("no match: " ++ text)
          else return if s.features.contains "nullglob" then [] else [text]
      | all => return all

/-- Whether a word looks like an assignment, and where its value begins. -/
def valueStart? (ps : List Part) : Option (List Char × List Part) :=
  match ps with
  | .plain s :: rest =>
      match nameAhead s.toList with
      | (name, '=' :: after) =>
          if name.isEmpty then none
          else some ((name ++ "=").toList, .plain (String.ofList after) :: rest)
      | _ => none
  | _ => none

/-- The fields of a word without alternatives between braces. -/
def wordFields (w : Word) : Act (List String) := do
  let s ← session
  let all ←
    match s.dialect, valueStart? w.parts with
    | .extended, some (start, rest) => do
        let after ← atoms r .all rest
        pure (start.map .bare ++ after)
    | _, _ => atoms r .first w.parts
  let fs := Atom.fields s.separators all
  return (← fs.mapM found).flatten

/-- The fields of a word. -/
def fieldsOf (w : Word) : Act (List String) := do
  match w.parts with
  | [.plain s] =>
      if s.toList.all (fun c => c.isAlphanum || c = '-' || c = '_' || c = '.'
          || c = '/') then
        return [s]
      else all
  | _ => all
where
  /-- The fields, with alternatives between braces. -/
  all : Act (List String) := do
    let s ← session
    if s.dialect = .extended && s.habits.contains "braceexpand" then
      return (← (Brace.words w).mapM (wordFields r)).flatten
    else wordFields r w

/-- The fields of words. -/
def fields (ws : List Word) : Act (List String) := do
  return (← ws.mapM (fieldsOf r)).flatten

/-- The pattern that a word writes. -/
def patternOf (grouped : Bool) (w : Word) : Act Pattern := do
  let s ← session
  return Pattern.ofMarks (grouped || s.features.contains "extglob")
    (marksOf s.encoding (← letters r w))

end Expand
end NodeFlow.Shell
