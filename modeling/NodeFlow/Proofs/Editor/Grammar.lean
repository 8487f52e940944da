import Mathlib.Data.List.Induction
import NodeFlow.Proofs.Decode
import NodeFlow.Proofs.Editor.Rows

/-! # The grammar of structure texts

    What the rows of a text say makes up a structure if there is one title,
    each list starts at most once, every port comes after the start of a list,
    and the ports of a list have different names.  A port belongs to the list
    that has started last before it; a title in between changes nothing.

    The reader keeps a draft of what the rows so far have said.  As long as
    they break no rule, the draft holds what the rules ask about (`Tracks`);
    a row that breaks one ends the reading, and the error tells which
    (`parse_follows_grammar`). -/

namespace NodeFlow.Structure

/-! ## The rules -/

/-- Whether a line gives the title. -/
def Line.isTitle : Line → Bool
  | .title _ => true
  | _ => false

/-- The list that a line starts. -/
def Line.header? : Line → Option Section
  | .header which => some which
  | _ => none

/-- The list that has started last. -/
def lastHeader? (ls : List Line) : Option Section :=
  ls.reverse.findSome? Line.header?

/-- The port that a line adds to a list, after the lines before it. -/
def portUnder? (which : Section) (before : List Line) : Line → Option Port
  | .item (some p) => if lastHeader? before = some which then some p else none
  | _ => none

/-- The ports that lines add to a list, after the lines before them. -/
def listedAfter (which : Section) (before : List Line) : List Line → List Port
  | [] => []
  | l :: rest =>
      (portUnder? which before l).toList
        ++ listedAfter which (before ++ [l]) rest

/-- The ports of a list, in the order of the lines. -/
def listed (which : Section) (ls : List Line) : List Port :=
  listedAfter which [] ls

/-- Whether lines break no rule, a missing title apart. -/
structure Regular (ls : List Line) : Prop where
  /-- Every line is of a known form. -/
  known : Line.other ∉ ls
  /-- Every port is written as one. -/
  written : Line.item none ∉ ls
  /-- There is no second title. -/
  titles : ls.countP Line.isTitle ≤ 1
  /-- No list starts again. -/
  headers : ∀ which, ls.count (.header which) ≤ 1
  /-- A list has started before every port. -/
  sections : ∀ earlier port later, ls = earlier ++ .item port :: later →
    ∃ which, Line.header which ∈ earlier
  /-- The ports of a list have different names. -/
  names : ∀ which, ((listed which ls).map (·.name)).Nodup

/-- Whether lines make up a structure. -/
structure Grammatical (ls : List Line) : Prop extends Regular ls where
  /-- There is a title. -/
  titled : ∃ title, Line.title title ∈ ls

/-- The structure that lines make up. -/
structure Describes (ls : List Line) (s : Structure) : Prop where
  /-- The title, wherever it is given. -/
  title : Line.title s.title ∈ ls
  /-- The inputs. -/
  inputs : s.inputs = listed .inputs ls
  /-- The outputs. -/
  outputs : s.outputs = listed .outputs ls

/-- The rule that a line breaks after the lines before it, as an error tells
    it.  Lines count from one. -/
inductive Breaks (before : List Line) : Line → StructureError → Prop
  /-- There is a title already. -/
  | title {title : String} (h : ∃ l ∈ before, Line.isTitle l = true) :
      Breaks before (.title title)
        (.duplicateHeader (before.length + 1) "title")
  /-- The list has started already. -/
  | header {which : Section} (h : Line.header which ∈ before) :
      Breaks before (.header which)
        (.duplicateHeader (before.length + 1) which.word)
  /-- No list has started yet, whether or not a port is named. -/
  | outside {port : Option Port} (h : ∀ which, Line.header which ∉ before) :
      Breaks before (.item port) (.itemOutsideSection (before.length + 1))
  /-- A list has started, and no port is named. -/
  | malformed {which : Section} (h : Line.header which ∈ before) :
      Breaks before (.item none) (.malformedItem (before.length + 1))
  /-- A port of that name is in the list already. -/
  | duplicate {which : Section} {p q : Port}
      (hlast : lastHeader? before = some which)
      (hq : q ∈ listed which before) (hname : q.name = p.name) :
      Breaks before (.item (some p)) (.duplicatePort (before.length + 1) p.name)
  /-- The line is of no known form. -/
  | unexpected : Breaks before .other (.unexpectedLine (before.length + 1))

/-- The first rule that is broken. -/
inductive FirstBroken (ls : List Line) : StructureError → Prop
  /-- A line breaks it, and none before does. -/
  | line {earlier later : List Line} {l : Line} {e : StructureError}
      (split : ls = earlier ++ l :: later) (regular : Regular earlier)
      (breaks : Breaks earlier l e) : FirstBroken ls e
  /-- There is nothing wrong but that a title is missing. -/
  | untitled (regular : Regular ls) (h : ∀ title, Line.title title ∉ ls) :
      FirstBroken ls .missingTitle

variable {ls : List Line} {l : Line} {which : Section} {title : String}
  {d : Draft} {e : StructureError}

/-! ## One more line -/

/-- One more line is the last header if it is one. -/
theorem lastHeader?_concat (ls : List Line) (l : Line) :
    lastHeader? (ls ++ [l]) = l.header?.or (lastHeader? ls) := by
  unfold lastHeader?
  rw [List.reverse_append, List.reverse_singleton, List.singleton_append,
    List.findSome?_cons]
  cases l.header? <;> rfl

/-- Only a header opens a section. -/
theorem header?_eq_some_iff : l.header? = some which ↔ l = .header which := by
  cases l <;> simp [Line.header?]

/-- Only a title is a title. -/
theorem isTitle_iff : l.isTitle = true ↔ ∃ title, l = .title title := by
  cases l <;> simp [Line.isTitle]

/-- A list has started last only where one has started. -/
theorem mem_of_lastHeader? (h : lastHeader? ls = some which) :
    Line.header which ∈ ls := by
  obtain ⟨l, hl, hwhich⟩ := List.exists_of_findSome?_eq_some h
  rw [header?_eq_some_iff.mp hwhich] at hl
  exact List.mem_reverse.mp hl

/-- There is no last header exactly if there is none at all. -/
theorem lastHeader?_eq_none_iff :
    lastHeader? ls = none ↔ ∀ which, Line.header which ∉ ls := by
  rw [lastHeader?, List.findSome?_eq_none_iff]
  constructor
  · intro h which hmem
    cases h _ (List.mem_reverse.mpr hmem)
  · intro h l hl
    rw [Option.eq_none_iff_forall_ne_some]
    intro which hwhich
    rw [header?_eq_some_iff.mp hwhich] at hl
    exact h which (List.mem_reverse.mp hl)

/-- One more line lists at most one more port. -/
theorem listedAfter_concat (which : Section) (before ls : List Line)
    (l : Line) :
    listedAfter which before (ls ++ [l])
      = listedAfter which before ls
        ++ (portUnder? which (before ++ ls) l).toList := by
  induction ls generalizing before with
  | nil => simp [listedAfter]
  | cons k rest ih =>
      rw [List.cons_append, listedAfter, ih, listedAfter, List.append_assoc,
        List.append_assoc, List.singleton_append]

/-- One more line lists at most one more port, in the section that is open. -/
theorem listed_concat (which : Section) (ls : List Line) (l : Line) :
    listed which (ls ++ [l])
      = listed which ls ++ (portUnder? which ls l).toList :=
  listedAfter_concat which [] ls l

/-- A line lists a port exactly if it is an item and the section is open. -/
theorem portUnder?_eq_some_iff {p : Port} :
    portUnder? which ls l = some p
      ↔ l = .item (some p) ∧ lastHeader? ls = some which := by
  unfold portUnder?
  split <;> simp_all [and_comm]

/-- No lines are regular. -/
theorem regular_nil : Regular [] where
  known := List.not_mem_nil
  written := List.not_mem_nil
  titles := Nat.zero_le 1
  headers _ := Nat.zero_le 1
  sections := by simp
  names _ := List.nodup_nil

/-- Lines are regular without the last one of them. -/
theorem Regular.of_concat (h : Regular (ls ++ [l])) : Regular ls where
  known hmem := h.known (List.mem_append_left _ hmem)
  written hmem := h.written (List.mem_append_left _ hmem)
  titles := by
    have htitles := h.titles
    rw [List.countP_append] at htitles
    omega
  headers which := by
    have hheaders := h.headers which
    rw [List.count_append] at hheaders
    omega
  sections earlier port later hls :=
    h.sections earlier port (later ++ [l]) (by simp [hls])
  names which := by
    have hnames := h.names which
    rw [listed_concat, List.map_append] at hnames
    exact hnames.of_append_left

/-- A line that keeps the rules breaks none. -/
theorem Regular.not_breaks (h : Regular (ls ++ [l])) : ¬ Breaks ls l e := by
  intro hbreaks
  cases hbreaks with
  | title hold =>
      -- there would be two titles
      have htitles := h.titles
      have hpos := List.countP_pos_iff.mpr hold
      rw [List.countP_append, List.countP_singleton] at htitles
      simp only [Line.isTitle, if_true] at htitles
      omega
  | @header which hold =>
      -- the list would start twice
      have hheaders := h.headers which
      have hpos := List.count_pos_iff.mpr hold
      rw [List.count_append, List.count_singleton_self] at hheaders
      omega
  | @outside port hnone =>
      obtain ⟨which, hwhich⟩ := h.sections ls port [] rfl
      exact hnone which hwhich
  | malformed => exact h.written (by simp)
  | @duplicate which p q hlast hq hname =>
      -- the name would be listed twice
      have hnames := h.names which
      have hp : portUnder? which ls (.item (some p)) = some p :=
        portUnder?_eq_some_iff.mpr ⟨rfl, hlast⟩
      rw [listed_concat, hp, List.map_append, List.nodup_append] at hnames
      exact hnames.2.2 q.name (List.mem_map_of_mem hq) p.name (by simp) hname
  | unexpected => exact h.known (by simp)

/-- A line that breaks no rule keeps them. -/
theorem Regular.concat (h : Regular ls) (hl : ∀ e, ¬ Breaks ls l e) :
    Regular (ls ++ [l]) where
  known hmem := by
    rcases List.mem_append.mp hmem with hmem | hmem
    · exact h.known hmem
    · rw [← List.mem_singleton.mp hmem] at hl
      exact hl _ .unexpected
  written hmem := by
    rcases List.mem_append.mp hmem with hmem | hmem
    · exact h.written hmem
    · rw [← List.mem_singleton.mp hmem] at hl
      exact hl _ (.outside (fun which hwhich => hl _ (.malformed hwhich)))
  titles := by
    -- a second title would break the grammar
    rw [List.countP_append, List.countP_singleton]
    split
    · rename_i htitle
      obtain ⟨title, rfl⟩ := isTitle_iff.mp htitle
      have hnone : ls.countP Line.isTitle = 0 := by
        rw [List.countP_eq_zero]
        exact fun k hk hkt => hl _ (.title ⟨k, hk, hkt⟩)
      omega
    · exact h.titles
  headers which := by
    rw [List.count_append]
    by_cases hwhich : l = .header which
    · subst hwhich
      have hnone : ls.count (.header which) = 0 :=
        List.count_eq_zero.mpr (fun hmem => hl _ (.header hmem))
      rw [hnone, List.count_singleton_self]
    · have hnone : [l].count (.header which) = 0 :=
        List.count_eq_zero.mpr (by simpa using Ne.symm hwhich)
      rw [hnone]
      exact h.headers which
  sections earlier port later hls := by
    -- the port is the new line, or stood there before
    rcases List.eq_nil_or_concat' later with rfl | ⟨later, k, rfl⟩
    · obtain ⟨rfl, rfl⟩ := List.append_singleton_inj.mp hls
      by_contra hnone
      exact hl _ (.outside (not_exists.mp hnone))
    · rw [← List.cons_append, ← List.append_assoc] at hls
      exact h.sections earlier port later (List.append_singleton_inj.mp hls).1
  names which := by
    rw [listed_concat]
    cases hp : portUnder? which ls l with
    -- only a line that lists a port can repeat a name
    | none => simpa using h.names which
    | some p =>
        obtain ⟨rfl, hlast⟩ := portUnder?_eq_some_iff.mp hp
        rw [List.map_append, List.nodup_append]
        refine ⟨h.names which, List.nodup_singleton _, ?_⟩
        intro name hname name' hname' heq
        obtain ⟨q, hq, rfl⟩ := List.mem_map.mp hname
        obtain rfl : name' = p.name := by simpa using hname'
        exact hl _ (.duplicate hlast hq heq)

/-- What comes first keeps the rules if all does. -/
theorem Regular.of_append {more : List Line} (h : Regular (ls ++ more)) :
    Regular ls := by
  induction more using List.reverseRecOn with
  | nil => simpa using h
  | append_singleton more l ih =>
      rw [← List.append_assoc] at h
      exact ih h.of_concat

/-! ## One error -/

/-- A line breaks one rule at most. -/
theorem Breaks.unique {e' : StructureError} (h : Breaks ls l e)
    (h' : Breaks ls l e') : e = e' := by
  cases h with
  | title | header | unexpected =>
      cases h'
      rfl
  | outside hnone =>
      cases h' with
      | outside => rfl
      | malformed hsome => exact absurd hsome (hnone _)
      | duplicate hlast => exact absurd (mem_of_lastHeader? hlast) (hnone _)
  | malformed hsome =>
      cases h' with
      | outside hnone => exact absurd hsome (hnone _)
      | malformed => rfl
  | duplicate hlast =>
      cases h' with
      | outside hnone => exact absurd (mem_of_lastHeader? hlast) (hnone _)
      | duplicate => rfl

/-- Lines that keep the rules do not break one. -/
theorem Regular.not_broken (h : Regular ls) (htitle : Line.title title ∈ ls) :
    ¬ FirstBroken ls e := by
  rintro (⟨rfl, -, hbreaks⟩ | ⟨-, hnone⟩)
  · rw [List.append_cons] at h
    exact h.of_append.not_breaks hbreaks
  · exact hnone title htitle

/-- Regular lines end before a line that breaks a rule. -/
theorem Regular.length_le {earlier later earlier' later' : List Line}
    {l' : Line} (h : Regular earlier') (hbreaks : Breaks earlier l e)
    (hsplit : earlier ++ l :: later = earlier' ++ l' :: later') :
    earlier'.length ≤ earlier.length := by
  by_contra hlong
  have hprefix : earlier ++ [l] <+: earlier' := by
    have hone : earlier ++ [l] <+: earlier ++ l :: later := ⟨later, by simp⟩
    refine List.prefix_of_prefix_length_le hone
      ⟨l' :: later', hsplit.symm⟩ ?_
    rw [List.length_append, List.length_singleton]
    omega
  obtain ⟨between, rfl⟩ := hprefix
  exact h.of_append.not_breaks hbreaks

/-- Of two lines that break a rule only one can be the first. -/
theorem FirstBroken.unique {e' : StructureError} (h : FirstBroken ls e)
    (h' : FirstBroken ls e') : e = e' := by
  cases h with
  | line hls hregular hbreaks =>
      cases h' with
      | line hls' hregular' hbreaks' =>
          have hsplit := hls.symm.trans hls'
          obtain ⟨rfl, hrest⟩ := List.append_inj hsplit
            (Nat.le_antisymm (hregular.length_le hbreaks' hsplit.symm)
              (hregular'.length_le hbreaks hsplit))
          obtain ⟨rfl, -⟩ := List.cons.inj hrest
          exact hbreaks.unique hbreaks'
      | untitled hregular' =>
          rw [hls, List.append_cons] at hregular'
          exact absurd hbreaks hregular'.of_append.not_breaks
  | untitled hregular hnone =>
      cases h' with
      | line hls' hregular' hbreaks' =>
          rw [hls', List.append_cons] at hregular
          exact absurd hbreaks' hregular.of_append.not_breaks
      | untitled => rfl

/-! ## The reader -/

/-- What a draft holds of the lines so far. -/
structure Tracks (ls : List Line) (d : Draft) : Prop where
  /-- The lines keep the rules. -/
  regular : Regular ls
  /-- The title. -/
  title : ∀ title, d.title = some title ↔ Line.title title ∈ ls
  /-- The list that has started last. -/
  current : d.current = lastHeader? ls
  /-- The lists that have started. -/
  started : ∀ which, which ∈ d.started ↔ Line.header which ∈ ls
  /-- The ports of each list. -/
  ports : ∀ which, (d.ports which).reverse = listed which ls

/-- The empty draft tracks no lines. -/
theorem tracks_nil : Tracks [] {} where
  regular := regular_nil
  title := by simp
  current := rfl
  started := by simp
  ports which := by cases which <;> rfl

/-- A draft has exactly the ports that the lines list. -/
theorem Tracks.mem_ports_iff (h : Tracks ls d) {q : Port} :
    q ∈ d.ports which ↔ q ∈ listed which ls := by
  rw [← h.ports, List.mem_reverse]

/-- A draft has no title exactly if no line says one. -/
theorem Tracks.title_eq_none_iff (h : Tracks ls d) :
    d.title = none ↔ ∀ title, Line.title title ∉ ls := by
  rw [Option.eq_none_iff_forall_ne_some]
  exact forall_congr' (fun title => not_congr (h.title title))

/-- A first title is taken in. -/
theorem Tracks.withTitle (h : Tracks ls d) (hnone : d.title = none)
    (title : String) :
    Tracks (ls ++ [.title title]) { d with title := some title } where
  regular := by
    refine h.regular.concat (fun e he => ?_)
    obtain ⟨k, hk, hkt⟩ : ∃ k ∈ ls, Line.isTitle k = true := by
      cases he
      assumption
    obtain ⟨old, rfl⟩ := isTitle_iff.mp hkt
    exact h.title_eq_none_iff.mp hnone old hk
  title t := by simp [h.title_eq_none_iff.mp hnone t, eq_comm]
  current := by simp [lastHeader?_concat, Line.header?, h.current]
  started which := by simp [h.started]
  ports which := by
    have hports := h.ports which
    simp only [listed_concat, portUnder?, Option.toList_none, List.append_nil]
    cases which <;> exact hports

/-- A list that has not started yet starts. -/
theorem Tracks.withHeader (h : Tracks ls d) (hnew : which ∉ d.started) :
    Tracks (ls ++ [.header which])
      { d with started := which :: d.started, current := some which } where
  regular := by
    refine h.regular.concat (fun e he => hnew ((h.started which).mpr ?_))
    cases he
    assumption
  title t := by simp [h.title]
  current := by simp [lastHeader?_concat, Line.header?]
  started other := by simp [h.started, or_comm]
  ports other := by
    have hports := h.ports other
    simp only [listed_concat, portUnder?, Option.toList_none, List.append_nil]
    cases other <;> exact hports

/-- A port with a new name joins the list that has started last. -/
theorem Tracks.withPort (h : Tracks ls d) (hcurrent : d.current = some which)
    {p : Port} (hnew : ∀ q ∈ d.ports which, q.name ≠ p.name) :
    Tracks (ls ++ [.item (some p)]) (d.addPort which p) where
  regular := by
    -- the section that is open in the draft is the one of the last header
    have hlast : lastHeader? ls = some which := h.current.symm.trans hcurrent
    refine h.regular.concat (fun e he => ?_)
    cases he with
    | outside hnone => exact hnone which (mem_of_lastHeader? hlast)
    | duplicate hlast' hq hname =>
        obtain rfl := Option.some.inj (hlast.symm.trans hlast')
        exact hnew _ (h.mem_ports_iff.mpr hq) hname
  title t := by simp [h.title]
  current := by simp [lastHeader?_concat, Line.header?, h.current]
  started other := by
    have hsame : (d.addPort which p).started = d.started := by
      cases which <;> rfl
    simp [hsame, h.started]
  ports other := by
    have hports := h.ports other
    rw [Draft.ports_addPort, listed_concat, portUnder?, ← h.current, hcurrent]
    by_cases hother : which = other
    · simp [hother, hports]
    · simp [hother, hports]

/-- A line is taken in if it breaks no rule, and refused for the rule that it
    breaks. -/
theorem Tracks.line (h : Tracks ls d) (l : Line) :
    (∃ d', d.line (ls.length + 1) l = .ok d' ∧ Tracks (ls ++ [l]) d')
      ∨ ∃ e, d.line (ls.length + 1) l = .error e ∧ Breaks ls l e := by
  cases l with
  | blank =>
      refine Or.inl ⟨d, rfl, h.regular.concat nofun, ?_, ?_, ?_, ?_⟩
      · simp [h.title]
      · simp [lastHeader?_concat, Line.header?, h.current]
      · simp [h.started]
      · simp [listed_concat, portUnder?, h.ports]
  | title title =>
      cases htitle : d.title with
      -- a second title is refused
      | some old =>
          refine Or.inr ⟨_, by simp only [Draft.line, htitle], .title ?_⟩
          exact ⟨.title old, (h.title old).mp htitle, rfl⟩
      | none =>
          exact Or.inl ⟨_, by simp only [Draft.line, htitle],
            h.withTitle htitle title⟩
  | header which =>
      -- a list that has started is refused
      by_cases hold : which ∈ d.started
      · exact Or.inr ⟨_, by simp [Draft.line, hold],
          .header ((h.started which).mp hold)⟩
      · exact Or.inl ⟨_, by simp [Draft.line, hold], h.withHeader hold⟩
  | item port =>
      cases hcurrent : d.current with
      | none =>
          refine Or.inr ⟨_, by simp only [Draft.line, hcurrent], .outside ?_⟩
          exact lastHeader?_eq_none_iff.mp (h.current.symm.trans hcurrent)
      | some which =>
          have hlast : lastHeader? ls = some which :=
            h.current.symm.trans hcurrent
          cases port with
          | none =>
              exact Or.inr ⟨_, by simp only [Draft.line, hcurrent],
                .malformed (mem_of_lastHeader? hlast)⟩
          | some p =>
              -- a port is added unless its section has its name already
              by_cases hnew : ∀ q ∈ d.ports which, q.name ≠ p.name
              · refine Or.inl ⟨_, ?_, h.withPort hcurrent hnew⟩
                simp only [Draft.line, hcurrent]
                exact if_neg (by simpa using hnew)
              · obtain ⟨q, hq, hname⟩ :
                    ∃ q ∈ d.ports which, q.name = p.name := by
                  simpa using hnew
                refine Or.inr ⟨_, ?_,
                  .duplicate hlast (h.mem_ports_iff.mp hq) hname⟩
                simp only [Draft.line, hcurrent]
                exact if_pos (by simpa using ⟨q, hq, hname⟩)
  | other => exact Or.inr ⟨_, rfl, .unexpected⟩

/-- Lines are taken in if they keep the rules, and refused for the first rule
    that is broken. -/
theorem Tracks.lines (h : Tracks ls d) (more : List Line) :
    (∃ d', d.lines (ls.length + 1) more = .ok d' ∧ Tracks (ls ++ more) d')
      ∨ ∃ e, d.lines (ls.length + 1) more = .error e
        ∧ FirstBroken (ls ++ more) e := by
  induction more generalizing ls d with
  | nil => exact Or.inl ⟨d, rfl, by simpa using h⟩
  | cons l rest ih =>
      rw [Draft.lines, List.append_cons]
      rcases h.line l with ⟨d', hok, htracks⟩ | ⟨e, herror, hbreaks⟩
      · have hrest := ih htracks
        rw [List.length_append, List.length_singleton] at hrest
        simpa only [hok] using hrest
      · refine Or.inr ⟨e, by simp only [herror], ?_⟩
        exact .line (List.append_cons ls l rest).symm h.regular hbreaks

/-- An empty line in the end changes nothing. -/
theorem lines_concat_blank (d : Draft) (n : Nat) (ls : List Line) :
    d.lines n (ls ++ [.blank]) = d.lines n ls := by
  induction ls generalizing d n with
  | nil => rfl
  | cons l rest ih =>
      rw [List.cons_append, Draft.lines, Draft.lines]
      cases d.line n l with
      | ok d' => exact ih d' (n + 1)
      | error e => rfl

/-- A text is read row by row. -/
theorem parse_eq (text : String) :
    parse text
      = (({} : Draft).lines 1 ((text.toList.splitOn '\n').map Line.ofChars)
        >>= Draft.finish) := by
  obtain ⟨last, rfl | rfl, heq⟩ := map_ofChars_splitOn text
  · rw [heq, List.append_nil]
    unfold parse
    cases ({} : Draft).lines 1 ((Text.charLines text.toList).map Line.ofChars) <;>
      rfl
  · rw [heq, lines_concat_blank]
    unfold parse
    cases ({} : Draft).lines 1 ((Text.charLines text.toList).map Line.ofChars) <;>
      rfl

/-- What the draft holds in the end is what the lines describe. -/
theorem Tracks.describes_iff (h : Tracks ls d) (htitle : d.title = some title)
    (s : Structure) :
    Describes ls s ↔ s = ⟨title, d.inputs.reverse, d.outputs.reverse⟩ := by
  have hin : d.inputs.reverse = listed .inputs ls := h.ports .inputs
  have hout : d.outputs.reverse = listed .outputs ls := h.ports .outputs
  constructor
  · rintro ⟨hs, hins, houts⟩
    have hsame := (h.title _).mpr hs
    rw [htitle, Option.some.injEq] at hsame
    cases s
    simp_all
  · rintro rfl
    exact ⟨(h.title title).mp htitle, hin, hout⟩

/-- Lines are read as the one structure that they describe, or refused for the
    first rule that they break. -/
theorem lines_finish_cases (ls : List Line) :
    (∃ s, (({} : Draft).lines 1 ls >>= Draft.finish) = .ok s
        ∧ Grammatical ls ∧ ∀ s', Describes ls s' ↔ s' = s)
      ∨ ∃ e, (({} : Draft).lines 1 ls >>= Draft.finish) = .error e
        ∧ FirstBroken ls e := by
  rcases tracks_nil.lines ls with ⟨d, hok, h⟩ | ⟨e, herror, hbroken⟩
  · rw [List.length_nil, Nat.zero_add] at hok
    rw [List.nil_append] at h
    rw [hok, ok_bind]
    unfold Draft.finish
    cases htitle : d.title with
    | some title =>
        exact Or.inl ⟨_, rfl, ⟨h.regular, title, (h.title title).mp htitle⟩,
          h.describes_iff htitle⟩
    | none =>
        exact Or.inr ⟨_, rfl,
          .untitled h.regular (h.title_eq_none_iff.mp htitle)⟩
  · rw [List.length_nil, Nat.zero_add] at herror
    rw [herror]
    exact Or.inr ⟨e, rfl, hbroken⟩

/-- A text is read as the structure that its rows describe, if they follow the
    grammar; if not, the error is that of the first rule that they break. -/
theorem parse_follows_grammar (text : String) :
    ∃ ls, (∀ ls', List.Forall₂ Says (rows text) ls' ↔ ls' = ls)
      ∧ ((∃ s, parse text = .ok s) ↔ Grammatical ls)
      ∧ (∀ s, parse text = .ok s ↔ Grammatical ls ∧ Describes ls s)
      ∧ ∀ e, parse text = .error e ↔ FirstBroken ls e := by
  refine ⟨_, forall₂_says_iff text, ?_⟩
  rw [parse_eq]
  rcases lines_finish_cases ((text.toList.splitOn '\n').map Line.ofChars) with
    ⟨s, hok, hgrammar, hdescribes⟩ | ⟨e, herror, hbroken⟩
  · obtain ⟨title, htitle⟩ := hgrammar.titled
    rw [hok]
    refine ⟨iff_of_true ⟨s, rfl⟩ hgrammar, fun s' => ?_, fun e => ?_⟩
    · rw [hdescribes, Except.ok.injEq, eq_comm]
      exact (and_iff_right hgrammar).symm
    · exact iff_of_false nofun (hgrammar.not_broken htitle)
  · have hnot (hgrammar : Grammatical _) : False :=
      have ⟨_, htitle⟩ := hgrammar.titled
      hgrammar.not_broken htitle hbroken
    rw [herror]
    refine ⟨iff_of_false nofun hnot, fun s => ?_, fun e' => ?_⟩
    · exact iff_of_false nofun (fun h => hnot h.1)
    · rw [Except.error.injEq]
      exact ⟨fun h => h ▸ hbroken, hbroken.unique⟩

/-- The title stands between two inputs, and an output has the name of one. -/
example :
    parse "\ninputs:\n  - a (n)\ntitle: T\n  - b (n)\r\noutputs:\n  - a (n)"
      = .ok
          ⟨"T", [⟨"a", "n", none⟩, ⟨"b", "n", none⟩],
            [⟨"a", "n", none⟩]⟩ := by
  decide +kernel

end NodeFlow.Structure
