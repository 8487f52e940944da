import NodeFlow.Json.Printer
import NodeFlow.Json.Shape
import NodeFlow.Proofs.Json.Numeral

/-! # Reading what is written without blanks

    Whoever writes JSON without blanks puts a tree on the page in one of
    several ways: a character between quotes may stand for itself, behind a
    backslash, or as the numbers of its code units.  `Tree.Written` says which
    texts these are, without mention of a reader.  The reader finds in each of
    them the tree that was written (`ofText?_of_written`): the characters are
    scanned into the tokens of the tree (`scanFrom_written`), and these build
    it (`run_tokens`).  Each stage is an induction on the tree, and says what
    happens before whatever follows.

    The value of a tree is then found whenever there is one and the tree does
    not nest too deep (`read_of_written`). -/

namespace NodeFlow.Json

/-! ## Texts of trees -/

/-- How a piece is written between quotes. -/
inductive Piece.Written : Piece → List Char → Prop where
  /-- A character as it stands. -/
  | plain {c : Char} :
      c ≠ '"' → c ≠ '\\' → ¬ c.toNat < 0x20 → Written (.char c) [c]
  /-- A character by the letter for it. -/
  | letter {l c : Char} :
      escapeValue l = some c → Written (.char c) ['\\', l]
  /-- A code unit by its number. -/
  | unit {n : Nat} : n < 65536 → Written (.unit n) (unitEscape n)

/-- How pieces are written, one after the other. -/
inductive PiecesWritten : List Piece → List Char → Prop where
  /-- No piece. -/
  | nil : PiecesWritten [] []
  /-- One piece and others after it. -/
  | cons {p : Piece} {ps : List Piece} {cs ds : List Char} :
      p.Written cs → PiecesWritten ps ds → PiecesWritten (p :: ps) (cs ++ ds)

/-- How a text is written between quotes; nothing stands for pieces that are
    not the text of any characters. -/
inductive QuoteWritten : Option String → List Char → Prop where
  /-- The quotes go around the pieces. -/
  | quote {ps : List Piece} {cs : List Char} :
      PiecesWritten ps cs →
      QuoteWritten ((spell ps).map String.ofList) ('"' :: (cs ++ ['"']))

/-- The word for a literal. -/
def literalWord : Option Bool → List Char
  | none => ['n', 'u', 'l', 'l']
  | some true => ['t', 'r', 'u', 'e']
  | some false => ['f', 'a', 'l', 's', 'e']

mutual

/-- How a tree is written without blanks. -/
inductive Tree.Written : Tree → List Char → Prop where
  /-- A literal. -/
  | literal (v : Option Bool) : Tree.Written (.literal v) (literalWord v)
  /-- A numeral. -/
  | numeral {n : Numeral} {cs : List Char} :
      Numeral.ofChars? cs = some n → Tree.Written (.numeral n) cs
  /-- A quoted text. -/
  | text {s : Option String} {cs : List Char} :
      QuoteWritten s cs → Tree.Written (.text s) cs
  /-- A list. -/
  | list {ts : List Tree} {cs : List Char} :
      ItemsWritten ts cs → Tree.Written (.list ts) ('[' :: (cs ++ [']']))
  /-- An object. -/
  | object {ms : List (Option String × Tree)} {cs : List Char} :
      MembersWritten ms cs →
      Tree.Written (.object ms) ('\x7b' :: (cs ++ ['\x7d']))

/-- How items are written, separated by commas. -/
inductive ItemsWritten : List Tree → List Char → Prop where
  /-- No item. -/
  | nil : ItemsWritten [] []
  /-- The last item. -/
  | last {t : Tree} {cs : List Char} :
      Tree.Written t cs → ItemsWritten [t] cs
  /-- One item and others after it. -/
  | more {t u : Tree} {ts : List Tree} {cs ds : List Char} :
      Tree.Written t cs → ItemsWritten (u :: ts) ds →
      ItemsWritten (t :: u :: ts) (cs ++ ',' :: ds)

/-- How members are written, separated by commas. -/
inductive MembersWritten : List (Option String × Tree) → List Char → Prop where
  /-- No member. -/
  | nil : MembersWritten [] []
  /-- The last member. -/
  | last {k : Option String} {t : Tree} {ks cs : List Char} :
      QuoteWritten k ks → Tree.Written t cs →
      MembersWritten [(k, t)] (ks ++ ':' :: cs)
  /-- One member and others after it. -/
  | more {k : Option String} {t : Tree} {m : Option String × Tree}
      {ms : List (Option String × Tree)} {ks cs ds : List Char} :
      QuoteWritten k ks → Tree.Written t cs → MembersWritten (m :: ms) ds →
      MembersWritten ((k, t) :: m :: ms) (ks ++ ':' :: (cs ++ ',' :: ds))

end

/-- Whether a text is a JSON text without blanks. -/
def IsText (s : String) : Prop := ∃ t : Tree, t.Written s.toList

namespace Tree

mutual

/-- The tokens of a tree. -/
def tokens : Tree → List Token
  | .literal v => [.literal v]
  | .numeral n => [.numeral n]
  | .text s => [.text s]
  | .list ts => .openList :: (itemTokens ts ++ [.closeList])
  | .object ms => .openObject :: (memberTokens ms ++ [.closeObject])

/-- The tokens of items separated by commas. -/
def itemTokens : List Tree → List Token
  | [] => []
  | [t] => tokens t
  | t :: u :: ts => tokens t ++ .comma :: itemTokens (u :: ts)

/-- The tokens of members separated by commas. -/
def memberTokens : List (Option String × Tree) → List Token
  | [] => []
  | [(k, t)] => .text k :: .colon :: tokens t
  | (k, t) :: m :: ms =>
      .text k :: .colon :: (tokens t ++ .comma :: memberTokens (m :: ms))

end

end Tree

/-! ## Quoted text -/

variable {done : List Token} {rest : List Char}

/-- One step of the scan, and then the rest. -/
theorem scanFrom_cons {l : List Token} {s u : Scan} {c : Char}
    (h : scanStep s c = some (l, u)) :
    scanFrom done s (c :: rest) = scanFrom (l.reverse ++ done) u rest := by
  cases s <;> simp only [scanFrom, h]

/-- A character that completes no token. -/
theorem scanFrom_inside {s u : Scan} {c : Char}
    (h : scanStep s c = some ([], u)) :
    scanFrom done s (c :: rest) = scanFrom done u rest :=
  scanFrom_cons h

/-- A character that is a token by itself. -/
theorem scanFrom_mark {t : Token} {c : Char}
    (h : scanStep .gap c = some ([t], .gap)) :
    scanFrom done .gap (c :: rest) = scanFrom (t :: done) .gap rest :=
  scanFrom_cons h

/-- A hexadecimal digit has its value. -/
theorem hexValue?_hexDigit {n : Nat} (h : n < 16) :
    hexValue? (hexDigit n) = some n := by
  revert n
  decide

/-- An escape with a number is scanned as that code unit. -/
theorem scanFrom_unitEscape {n : Nat} (h : n < 65536) (pieces : List Piece) :
    scanFrom done (.quote pieces) (unitEscape n ++ rest)
      = scanFrom done (.quote (.unit n :: pieces)) rest := by
  -- a digit with more to come adds to the value
  have hdigit : ∀ {k value owed : Nat}, k < 16 → ¬ owed ≤ 1 →
      ∀ cs, scanFrom done (.unit pieces value owed) (hexDigit k :: cs)
        = scanFrom done (.unit pieces (16 * value + k) (owed - 1)) cs := by
    intro k value owed hk howed cs
    refine scanFrom_inside ?_
    simp [scanStep, hexValue?_hexDigit hk, howed]
  -- the last digit completes the unit
  have hlast : ∀ {k value : Nat}, k < 16 →
      ∀ cs, scanFrom done (.unit pieces value 1) (hexDigit k :: cs)
        = scanFrom done (.quote (.unit (16 * value + k) :: pieces)) cs := by
    intro k value hk cs
    refine scanFrom_inside ?_
    simp [scanStep, hexValue?_hexDigit hk]
  have hquote : ∀ cs, scanFrom done (.quote pieces) ('\\' :: 'u' :: cs)
      = scanFrom done (.unit pieces 0 4) cs := fun cs => rfl
  unfold unitEscape
  simp only [List.cons_append, List.nil_append]
  rw [hquote, hdigit (Nat.mod_lt _ (by decide)) (by decide),
    hdigit (Nat.mod_lt _ (by decide)) (by decide),
    hdigit (Nat.mod_lt _ (by decide)) (by decide),
    hlast (Nat.mod_lt _ (by decide))]
  -- the four digits are those of the number
  rw [show 16 * (16 * (16 * (16 * 0 + n / 4096 % 16) + n / 256 % 16)
    + n / 16 % 16) + n % 16 = n by omega]

/-- A written piece is scanned as that piece. -/
theorem scanFrom_piece {p : Piece} {cs : List Char} (h : p.Written cs)
    (pieces : List Piece) :
    scanFrom done (.quote pieces) (cs ++ rest)
      = scanFrom done (.quote (p :: pieces)) rest := by
  cases h with
  | plain hquote hslash hlow =>
      exact scanFrom_inside (by simp [scanStep, hquote, hslash, hlow])
  | @letter l c hvalue =>
      have hu : l ≠ 'u' := by
        rintro rfl
        rw [show escapeValue 'u' = none from rfl] at hvalue
        cases hvalue
      rw [List.cons_append, scanFrom_inside (u := .escape pieces) rfl]
      exact scanFrom_inside (by simp [scanStep, hu, hvalue])
  | unit hlt => exact scanFrom_unitEscape hlt pieces

/-- Written pieces are scanned one after the other. -/
theorem scanFrom_pieces {ps : List Piece} {cs : List Char}
    (h : PiecesWritten ps cs) (pieces : List Piece) :
    scanFrom done (.quote pieces) (cs ++ rest)
      = scanFrom done (.quote (ps.reverse ++ pieces)) rest := by
  induction h generalizing pieces with
  | nil => rfl
  | cons hp _ ih =>
      rw [List.append_assoc, scanFrom_piece hp, ih, List.reverse_cons,
        List.append_assoc]
      rfl

/-- A text between quotes is scanned as one token. -/
theorem scanFrom_quote {s : Option String} {cs : List Char}
    (h : QuoteWritten s cs) :
    scanFrom done .gap (cs ++ rest) = scanFrom (.text s :: done) .gap rest := by
  cases h with
  | @quote ps cs hps =>
      rw [List.cons_append, List.append_assoc,
        scanFrom_inside (u := .quote []) rfl, scanFrom_pieces hps,
        List.append_nil, List.cons_append]
      refine scanFrom_cons (l := [.text ((spell ps).map String.ofList)]) ?_
      simp [scanStep]

/-! ## Bare words -/

/-- Whether a bare word ends here. -/
def Stops (rest : List Char) : Prop :=
  ∀ c, rest.head? = some c → isBare c = false

/-- Any character that is not bare stops what is. -/
theorem stops_cons {c : Char} (h : isBare c = false) : Stops (c :: rest) := by
  rintro _ ⟨⟩
  exact h

/-- A bare character in a gap starts a word. -/
theorem gapStep_of_isBare {c : Char} (h : isBare c = true) :
    gapStep c = some (none, .bare [c]) := by
  have hgap : isGap c = false := by
    rw [Bool.eq_false_iff]
    intro hc
    simp only [isGap, Bool.or_eq_true, decide_eq_true_eq] at hc
    rcases hc with ((rfl | rfl) | rfl) | rfl <;> exact absurd h (by decide)
  have hquote : c ≠ '"' := by
    rintro rfl
    exact absurd h (by decide)
  simp [gapStep, hgap, hquote, h]

/-- A bare word is a token where it ends. -/
theorem scanFrom_word {w : List Char} {t : Token} (hne : w ≠ [])
    (hbare : ∀ c ∈ w, isBare c = true) (ht : bareToken w = some t)
    (hrest : Stops rest) :
    scanFrom done .gap (w ++ rest) = scanFrom (t :: done) .gap rest := by
  -- the word is collected in reverse until something stops it
  have hinside : ∀ (cs sofar : List Char), (∀ c ∈ cs, isBare c = true) →
      scanFrom done (.bare sofar) (cs ++ rest)
        = scanFrom done (.bare (cs.reverse ++ sofar)) rest := by
    intro cs
    induction cs with
    | nil => intros; rfl
    | cons c cs ih =>
        intro sofar hcs
        obtain ⟨hc, hcs⟩ := List.forall_mem_cons.mp hcs
        rw [List.cons_append,
          scanFrom_inside (u := .bare (c :: sofar)) (by simp [scanStep, hc]),
          ih _ hcs, List.reverse_cons, List.append_assoc]
        rfl
  -- there its token is found
  have hend : scanFrom done (.bare w.reverse) rest
      = scanFrom (t :: done) .gap rest := by
    have hword : bareToken w.reverse.reverse = some t := by
      rw [List.reverse_reverse, ht]
    cases rest with
    | nil => simp [scanFrom, ht]
    | cons c rest =>
        have hc := hrest c rfl
        simp only [scanFrom, scanStep, hc, hword]
        cases gapStep c <;> simp
  obtain ⟨c, cs, rfl⟩ := List.exists_cons_of_ne_nil hne
  obtain ⟨hc, hcs⟩ := List.forall_mem_cons.mp hbare
  rw [List.cons_append, scanFrom_inside (u := .bare [c])
    (by simp [scanStep, gapStep_of_isBare hc]), hinside cs [c] hcs,
    ← List.reverse_cons, hend]

/-- The word of a literal is scanned as that literal, if something stops
    it. -/
theorem scanFrom_literal (v : Option Bool) (hrest : Stops rest) :
    scanFrom done .gap (literalWord v ++ rest)
      = scanFrom (.literal v :: done) .gap rest :=
  match v with
  | none =>
      scanFrom_word (List.cons_ne_nil _ _) (List.all_eq_true.mp rfl) rfl hrest
  | some true =>
      scanFrom_word (List.cons_ne_nil _ _) (List.all_eq_true.mp rfl) rfl hrest
  | some false =>
      scanFrom_word (List.cons_ne_nil _ _) (List.all_eq_true.mp rfl) rfl hrest

/-- A numeral is scanned as such, if something stops it. -/
theorem scanFrom_numeral {n : Numeral} {cs : List Char}
    (h : Numeral.ofChars? cs = some n) (hrest : Stops rest) :
    scanFrom done .gap (cs ++ rest)
      = scanFrom (.numeral n :: done) .gap rest := by
  have hword : ∀ {word : List Char}, Numeral.ofChars? word = none →
      cs ≠ word := by
    rintro word hnone rfl
    rw [hnone] at h
    cases h
  refine scanFrom_word (hword (by decide)) (Numeral.isBare_of_ofChars? h) ?_
    hrest
  unfold bareToken
  rw [if_neg (hword (by decide)), if_neg (hword (by decide)),
    if_neg (hword (by decide)), h]
  rfl

/-! ## Characters into tokens -/

mutual

/-- By recursion over the tree: a text of a tree is scanned as the tokens of
    the tree. -/
theorem scanFrom_written (t : Tree) {cs : List Char} (h : t.Written cs)
    (done : List Token) {rest : List Char} (hrest : Stops rest) :
    scanFrom done .gap (cs ++ rest)
      = scanFrom (t.tokens.reverse ++ done) .gap rest := by
  cases t with
  | literal v =>
      cases h
      exact scanFrom_literal v hrest
  | numeral n =>
      cases h with
      | numeral h => exact scanFrom_numeral h hrest
  | text s =>
      cases h with
      | text h => exact scanFrom_quote h
  | list ts =>
      cases h with
      | list h =>
          rw [List.cons_append, List.append_assoc,
            scanFrom_mark (t := .openList) rfl, List.cons_append,
            List.nil_append, scanFrom_items ts h _ (stops_cons rfl),
            scanFrom_mark (t := .closeList) rfl]
          simp [Tree.tokens]
  | object ms =>
      cases h with
      | object h =>
          rw [List.cons_append, List.append_assoc,
            scanFrom_mark (t := .openObject) rfl, List.cons_append,
            List.nil_append, scanFrom_members ms h _ (stops_cons rfl),
            scanFrom_mark (t := .closeObject) rfl]
          simp [Tree.tokens]

/-- A text of items is scanned as the tokens of the items. -/
theorem scanFrom_items (ts : List Tree) {cs : List Char}
    (h : ItemsWritten ts cs) (done : List Token) {rest : List Char}
    (hrest : Stops rest) :
    scanFrom done .gap (cs ++ rest)
      = scanFrom ((Tree.itemTokens ts).reverse ++ done) .gap rest := by
  match ts with
  | [] => cases h; rfl
  | [t] =>
      cases h with
      | last h => exact scanFrom_written t h done hrest
  | t :: u :: ts =>
      cases h with
      | more ht hts =>
          rw [List.append_assoc, List.cons_append,
            scanFrom_written t ht done (stops_cons rfl),
            scanFrom_mark (t := .comma) rfl,
            scanFrom_items (u :: ts) hts _ hrest]
          simp [Tree.itemTokens]

/-- A text of members is scanned as the tokens of the members. -/
theorem scanFrom_members (ms : List (Option String × Tree)) {cs : List Char}
    (h : MembersWritten ms cs) (done : List Token) {rest : List Char}
    (hrest : Stops rest) :
    scanFrom done .gap (cs ++ rest)
      = scanFrom ((Tree.memberTokens ms).reverse ++ done) .gap rest := by
  match ms with
  | [] => cases h; rfl
  | [(k, t)] =>
      cases h with
      | last hk ht =>
          rw [List.append_assoc, scanFrom_quote hk, List.cons_append,
            scanFrom_mark (t := .colon) rfl, scanFrom_written t ht _ hrest]
          simp [Tree.memberTokens]
  | (k, t) :: m :: ms =>
      cases h with
      | more hk ht hms =>
          rw [List.append_assoc, scanFrom_quote hk, List.cons_append,
            scanFrom_mark (t := .colon) rfl, List.append_assoc,
            List.cons_append, scanFrom_written t ht _ (stops_cons rfl),
            scanFrom_mark (t := .comma) rfl,
            scanFrom_members (m :: ms) hms _ hrest]
          simp [Tree.memberTokens]

end

/-! ## Tokens into a tree -/

/-- One token is built in, and then the rest. -/
theorem Build.run_cons {b d : Build} {t : Token} {more : List Token}
    (h : b.step t = some d) : b.run (t :: more) = d.run more := by
  rw [run, h]

/-- No value starts like the end of a list. -/
theorem run_valueOrEnd (t : Tree) (done : List Tree) (outer : List Frame)
    (more : List Token) :
    Build.run ⟨.valueOrEnd, .list done :: outer⟩ (t.tokens ++ more)
      = Build.run ⟨.value, .list done :: outer⟩ (t.tokens ++ more) := by
  cases t <;> rfl

mutual

/-- By recursion over the tree: from the tokens of a tree that tree is
    built. -/
theorem run_tokens (t : Tree) (frames : List Frame) (more : List Token) :
    Build.run ⟨.value, frames⟩ (t.tokens ++ more)
      = (Build.complete t frames).run more := by
  match t with
  | .literal _ | .numeral _ | .text _ => rfl
  | .list [] => rfl
  -- a list with items goes on as if its first item were one of many
  | .list (t :: ts) =>
      have hstart : Build.run ⟨.valueOrEnd, .list [] :: frames⟩
          (Tree.itemTokens (t :: ts) ++ .closeList :: more)
        = Build.run ⟨.value, .list [] :: frames⟩
          (Tree.itemTokens (t :: ts) ++ .closeList :: more) := by
        cases ts with
        | nil => exact run_valueOrEnd t [] frames _
        | cons u ts =>
            rw [Tree.itemTokens, List.append_assoc]
            exact run_valueOrEnd t [] frames _
      rw [Tree.tokens, List.cons_append, List.append_assoc,
        Build.run_cons (d := ⟨.valueOrEnd, .list [] :: frames⟩) rfl]
      exact hstart.trans
        (run_items (t :: ts) (List.cons_ne_nil _ _) [] frames more)
  | .object [] => rfl
  -- an object with members goes on in the same way
  | .object (m :: ms) =>
      have hstart : Build.run ⟨.nameOrEnd [], frames⟩
          (Tree.memberTokens (m :: ms) ++ .closeObject :: more)
        = Build.run ⟨.name [], frames⟩
          (Tree.memberTokens (m :: ms) ++ .closeObject :: more) := by
        cases ms <;> rfl
      rw [Tree.tokens, List.cons_append, List.append_assoc,
        Build.run_cons (d := ⟨.nameOrEnd [], frames⟩) rfl]
      exact hstart.trans
        (run_members (m :: ms) (List.cons_ne_nil _ _) [] frames more)

/-- From the tokens of items these items are built into the list that is
    open. -/
theorem run_items (ts : List Tree) (hne : ts ≠ []) (done : List Tree)
    (outer : List Frame) (more : List Token) :
    Build.run ⟨.value, .list done :: outer⟩
        (Tree.itemTokens ts ++ .closeList :: more)
      = (Build.complete (.list (done.reverse ++ ts)) outer).run more := by
  match ts with
  | [] => exact absurd rfl hne
  | [t] =>
      rw [Tree.itemTokens, run_tokens t, Build.complete,
        Build.run_cons (d := Build.complete (.list (t :: done).reverse) outer)
          rfl]
      simp
  | t :: u :: ts =>
      rw [Tree.itemTokens, List.append_assoc, run_tokens t, Build.complete,
        List.cons_append,
        Build.run_cons (d := ⟨.value, .list (t :: done) :: outer⟩) rfl,
        run_items (u :: ts) (List.cons_ne_nil _ _)]
      simp

/-- From the tokens of members these members are built into the object that is
    open. -/
theorem run_members (ms : List (Option String × Tree)) (hne : ms ≠ [])
    (done : List (Option String × Tree)) (outer : List Frame)
    (more : List Token) :
    Build.run ⟨.name done, outer⟩ (Tree.memberTokens ms ++ .closeObject :: more)
      = (Build.complete (.object (done.reverse ++ ms)) outer).run more := by
  match ms with
  | [] => exact absurd rfl hne
  | [(k, t)] =>
      rw [Tree.memberTokens, List.cons_append, List.cons_append,
        Build.run_cons (d := ⟨.colon, .object done k :: outer⟩) rfl,
        Build.run_cons (d := ⟨.value, .object done k :: outer⟩) rfl,
        run_tokens t, Build.complete,
        Build.run_cons (d := Build.complete
          (.object ((k, t) :: done).reverse) outer) rfl]
      simp
  | (k, t) :: m :: ms =>
      rw [Tree.memberTokens, List.cons_append, List.cons_append,
        List.append_assoc,
        Build.run_cons (d := ⟨.colon, .object done k :: outer⟩) rfl,
        Build.run_cons (d := ⟨.value, .object done k :: outer⟩) rfl,
        run_tokens t, Build.complete, List.cons_append,
        Build.run_cons (d := ⟨.name ((k, t) :: done), outer⟩) rfl,
        run_members (m :: ms) (List.cons_ne_nil _ _)]
      simp

end

/-- What is written is read as the tree that it was written from. -/
theorem ofText?_of_written {t : Tree} {s : String} (h : t.Written s.toList) :
    Tree.ofText? s = some t := by
  have hscan : scanFrom [] .gap (s.toList ++ []) = _ :=
    scanFrom_written t h [] (by rintro _ ⟨⟩)
  have hrun := run_tokens t [] []
  simp only [List.append_nil] at hscan hrun
  unfold Tree.ofText? tokens? Build.start
  rw [hscan]
  simp only [scanFrom, List.reverse_reverse, Option.bind_eq_bind,
    Option.bind_some, hrun, Build.complete, Build.run]

/-! ## The value of a tree -/

namespace Tree

mutual

/-- How many containers there are around and including the innermost
    value. -/
def depth : Tree → Nat
  | .literal _ | .numeral _ | .text _ => 0
  | .list ts => itemDepth ts + 1
  | .object ms => memberDepth ms + 1

/-- The depth of the deepest item. -/
def itemDepth : List Tree → Nat
  | [] => 0
  | t :: ts => max (depth t) (itemDepth ts)

/-- The depth of the deepest member. -/
def memberDepth : List (Option String × Tree) → Nat
  | [] => 0
  | (_, t) :: ms => max (depth t) (memberDepth ms)

end

mutual

/-- The value that a tree stands for when each of its numerals stands for a
    number; nothing if one of its texts is not the text of any characters. -/
def value? (number : Numeral → Option Number) : Tree → Option Json
  | .literal none => some .null
  | .literal (some b) => some (.bool b)
  | .numeral n => (number n).map .number
  | .text s => s.map .str
  | .list ts => (itemValues? number ts).map .arr
  | .object ms =>
      (memberValues? number ms).map (fun vs => ofTable (tableOf vs))

/-- The values of items. -/
def itemValues? (number : Numeral → Option Number) :
    List Tree → Option (List Json)
  | [] => some []
  | t :: ts => do
      let v ← value? number t
      let vs ← itemValues? number ts
      some (v :: vs)

/-- The values of members under their names. -/
def memberValues? (number : Numeral → Option Number) :
    List (Option String × Tree) → Option (List (String × Json))
  | [] => some []
  | (k, t) :: ms => do
      let k ← k
      let v ← value? number t
      let vs ← memberValues? number ms
      some ((k, v) :: vs)

end

end Tree

mutual

/-- Reading finds the value of a tree unless it nests too deep. -/
theorem settle_any (limit : Nat) (t : Tree) :
    settle .any limit t
      = if t.depth ≤ limit then t.value? Numeral.value? else none := by
  match t with
  | .literal none | .literal (some _) | .numeral _ | .text _ => rfl
  | .list ts =>
      cases limit with
      | zero => rfl
      | succ limit =>
          show (settleItems .any limit ts).map Json.arr = _
          rw [settleItems_any limit ts, Tree.depth, Tree.value?]
          simp only [Nat.succ_le_succ_iff]
          split <;> rfl
  | .object ms =>
      cases limit with
      | zero => rfl
      | succ limit =>
          show (settleMembers .any limit ms).map
            (fun vs => ofTable (tableOf vs)) = _
          rw [settleMembers_any limit ms, Tree.depth, Tree.value?]
          simp only [Nat.succ_le_succ_iff]
          split <;> rfl

/-- Items settle if none is nested too deep and each has a value. -/
theorem settleItems_any (limit : Nat) (ts : List Tree) :
    settleItems .any limit ts
      = if Tree.itemDepth ts ≤ limit
        then Tree.itemValues? Numeral.value? ts else none := by
  match ts with
  | [] => rfl
  | t :: ts =>
      rw [settleItems, settle_any limit t, settleItems_any limit ts,
        Tree.itemDepth, Tree.itemValues?]
      simp only [Nat.max_le]
      by_cases ht : t.depth ≤ limit <;>
        by_cases hts : Tree.itemDepth ts ≤ limit <;> simp [ht, hts]

/-- Members settle if none is nested too deep and each has a value. -/
theorem settleMembers_any (limit : Nat) (ms : List (Option String × Tree)) :
    settleMembers .any limit ms
      = if Tree.memberDepth ms ≤ limit
        then Tree.memberValues? Numeral.value? ms else none := by
  match ms with
  | [] => rfl
  | (k, t) :: ms =>
      rw [settleMembers, settle_any limit t, settleMembers_any limit ms,
        Tree.memberDepth, Tree.memberValues?]
      simp only [Nat.max_le]
      by_cases ht : t.depth ≤ limit <;>
        by_cases hms : Tree.memberDepth ms ≤ limit <;> simp [ht, hms]

end

/-- What is written is read as the value of the tree that it was written
    from, unless this nests too deep. -/
theorem read_of_written {t : Tree} {s : String} (h : t.Written s.toList) :
    read s = if t.depth ≤ deepest then t.value? Numeral.value? else none := by
  unfold read readAs
  rw [ofText?_of_written h]
  exact settle_any deepest t

end NodeFlow.Json
