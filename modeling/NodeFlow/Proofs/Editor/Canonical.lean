import Mathlib.Data.List.Nodup
import NodeFlow.Editor.Structure
import NodeFlow.Proofs.Text

/-! # Canonical structures

    A structure is canonical when title, names and types can stand on a line
    as they are, no name holds the two characters that come before a type,
    and the names of each list differ.  Every text that can be read gives a
    canonical structure, and the canonical structures are the ones that are
    read back after they are written. -/

namespace NodeFlow

/-- Whether a port can be written as a line and read back. -/
structure Port.Canonical (p : Port) : Prop where
  /-- There is a name. -/
  name_ne : p.name ≠ ""
  /-- There is a type. -/
  type_ne : p.type ≠ ""
  /-- The name has neither a line feed nor a blank at its ends. -/
  name : Text.Inline p.name.toList
  /-- The type has neither a line feed nor a blank at its ends. -/
  type : Text.Inline p.type.toList
  /-- The name does not end early. -/
  unsplit : ¬ [' ', '('] <:+: p.name.toList
  /-- There are no options. -/
  extra : p.extra = none

/-- Whether the ports of a list can be written and read back. -/
structure CanonicalPorts (ps : List Port) : Prop where
  /-- So can each by itself. -/
  each : ∀ p ∈ ps, p.Canonical
  /-- No two have the same name. -/
  names : (ps.map (·.name)).Nodup

/-- Ports with different names have them in any order. -/
theorem CanonicalPorts.reverse {ps : List Port} (h : CanonicalPorts ps) :
    CanonicalPorts ps.reverse := by
  refine ⟨fun p hp => h.each p (List.mem_reverse.mp hp), ?_⟩
  rw [List.map_reverse, List.nodup_reverse]
  exact h.names

namespace Structure

/-- Whether title and ports can be written and read back. -/
structure Canonical (s : Structure) : Prop where
  /-- The title has neither a line feed nor a blank at its ends. -/
  title : Text.Inline s.title.toList
  /-- The inputs. -/
  inputs : CanonicalPorts s.inputs
  /-- The outputs. -/
  outputs : CanonicalPorts s.outputs

/-! ## Beginnings and ends -/

variable {cs : List Char}

/-- What is left after a start comes after that start. -/
theorem eq_append_of_afterStart? {start rest : List Char}
    (h : afterStart? start cs = some rest) : cs = start ++ rest := by
  fun_induction afterStart? start cs with
  | case1 cs => exact Option.some.inj h
  | case2 a start => cases h
  | case3 a start cs ih => rw [ih h, List.cons_append]
  | case4 a start c cs hne => cases h

/-- What is before the closing bracket is followed by it. -/
theorem eq_append_of_beforeClose? {body : List Char}
    (h : beforeClose? cs = some body) : cs = body ++ [')'] := by
  unfold beforeClose? at h
  split at h
  · rename_i hlast
    obtain ⟨init, rfl⟩ := List.getLast?_eq_some_iff.mp hlast
    simpa using h
  · cases h

@[simp] theorem beforeClose?_append (body : List Char) :
    beforeClose? (body ++ [')']) = some body := by
  simp [beforeClose?]

/-- A split is at the first place where one can be. -/
theorem eq_append_of_splitOpen {n t : List Char}
    (h : splitOpen cs = some (n, t)) :
    cs = n ++ ' ' :: '(' :: t ∧ ¬ [' ', '('] <:+: n := by
  fun_induction splitOpen cs generalizing n with
  | case1 => cases h
  | case2 a => cases h
  | case3 a b rest hopen =>
      obtain ⟨rfl, rfl⟩ : a = ' ' ∧ b = '(' := by simpa using hopen
      cases h
      exact ⟨rfl, by simp⟩
  | case4 a b rest hopen ih =>
      obtain ⟨⟨n', t'⟩, hsplit, heq⟩ := Option.map_eq_some_iff.mp h
      cases heq
      obtain ⟨hrest, hnot⟩ := ih hsplit
      refine ⟨by rw [hrest, List.cons_append], fun hopening => ?_⟩
      rcases List.infix_cons_iff.mp hopening with ⟨more, hmore⟩ | hopening
      · -- the two characters stand in front, where the split would have been
        obtain ⟨rfl, rfl⟩ : ' ' = a ∧ '(' :: more = n' := by
          simpa using hmore
        obtain ⟨rfl, -⟩ := List.cons.inj hrest
        exact hopen rfl
      · exact hnot hopening

/-- A name without a bracket ends at the first one. -/
theorem splitOpen_append {n : List Char} (t : List Char)
    (h : ¬ [' ', '('] <:+: n) :
    splitOpen (n ++ ' ' :: '(' :: t) = some (n, t) := by
  induction n with
  | nil => rfl
  | cons a n ih =>
      have hn : ¬ [' ', '('] <:+: n :=
        fun hopening => h (List.infix_cons hopening)
      cases n with
      | nil => simp [splitOpen]
      | cons b n =>
          have hopen : ¬ (a = ' ' ∧ b = '(') := by
            rintro ⟨rfl, rfl⟩
            exact h (List.prefix_append [' ', '('] n).isInfix
          have hrec := ih hn
          simp only [List.cons_append] at hrec ⊢
          rw [splitOpen, hrec, if_neg (by simpa using hopen)]
          rfl

/-! ## Ports -/

/-- A port that is read from a line is canonical. -/
theorem canonical_of_portOf? {p : Port} (hcs : '\n' ∉ cs)
    (h : portOf? cs = some p) : p.Canonical := by
  simp only [portOf?, Option.bind_eq_bind, Option.bind_eq_some_iff] at h
  obtain ⟨body, hbody, ⟨name, type⟩, hsplit, h⟩ := h
  simp only at h
  split at h
  · cases h
  · rename_i hne
    cases h
    obtain ⟨rfl, hnot⟩ := eq_append_of_splitOpen hsplit
    have htrim := eq_append_of_beforeClose? hbody
    -- all parts of the port stand on the line, which has no line break
    have hline : name ++ ' ' :: '(' :: type <:+: cs := by
      refine List.IsInfix.trans ?_ (Text.infix_trimChars cs)
      rw [htrim]
      exact (List.prefix_append _ _).isInfix
    have hname : name <:+: cs :=
      (List.prefix_append name _).isInfix.trans hline
    have htype : type <:+: cs := by
      refine List.IsInfix.trans ?_ hline
      exact (List.suffix_append (name ++ [' ', '(']) type).isInfix.trans
        (by simp)
    exact
      { name_ne := by simp_all
        type_ne := by simp_all
        name := by simpa using Text.inline_trimChars hcs hname
        type := by simpa using Text.inline_trimChars hcs htype
        -- the name ends at the first bracket, so it contains none
        unsplit := by
          intro hopening
          rw [String.toList_ofList] at hopening
          exact hnot (hopening.trans (Text.infix_trimChars name))
        extra := rfl }

/-- What stands behind the dash of a port. -/
def itemChars (p : Port) : List Char :=
  p.name.toList ++ ' ' :: '(' :: p.type.toList ++ [')']

/-- The line of a port is what starts an item and then its characters. -/
theorem toList_itemLine (p : Port) :
    (itemLine p).toList = "  - ".toList ++ itemChars p := by
  simp [itemLine, itemChars]

/-- The line of a port ends with its closing bracket. -/
theorem getLast?_itemChars (start : List Char) (p : Port) :
    (start ++ itemChars p).getLast? = some ')' := by
  rw [itemChars, ← List.append_assoc, List.getLast?_concat]

/-- A canonical port is read back. -/
theorem portOf?_itemChars {p : Port} (h : p.Canonical) :
    portOf? (itemChars p) = some p := by
  have htrim : Text.trimChars (itemChars p) = itemChars p := by
    refine Text.trimChars_eq_self ⟨fun c hc => h.name.2.1 c ?_, fun c hc => ?_⟩
    · have hne : p.name.toList ≠ [] := by simpa using h.name_ne
      rw [itemChars, List.append_assoc, List.head?_append_of_ne_nil _ hne] at hc
      exact hc
    · obtain rfl : ')' = c := by
        simpa using (getLast?_itemChars [] p).symm.trans hc
      decide
  have hname : Text.trimChars p.name.toList = p.name.toList :=
    Text.trimChars_eq_self h.name.2
  have htype : Text.trimChars p.type.toList = p.type.toList :=
    Text.trimChars_eq_self h.type.2
  rw [portOf?, htrim, itemChars, beforeClose?_append]
  simp [splitOpen_append _ h.unsplit, hname, htype, h.name_ne, h.type_ne,
    ← h.extra]

/-! ## Lines -/

/-- Whether a line says nothing that is not canonical. -/
def Line.Canonical : Line → Prop
  | .title text => Text.Inline text.toList
  | .item (some p) => p.Canonical
  | _ => True

/-- What is read from any line is canonical: names and types have been
    trimmed. -/
theorem Line.canonical_ofChars (hcs : '\n' ∉ cs) :
    (Line.ofChars cs).Canonical := by
  have htrim := Text.prefix_trimEndChars cs
  -- whatever follows a start on the line is part of it
  have hpart {start rest : List Char}
      (h : afterStart? start (Text.trimEndChars cs) = some rest) :
      rest <:+: cs := by
    rw [eq_append_of_afterStart? h] at htrim
    exact (List.suffix_append start rest).isInfix.trans htrim.isInfix
  unfold Line.ofChars
  simp only
  split
  · trivial
  · split
    · rename_i rest hrest
      simpa [Line.Canonical] using Text.inline_trimChars hcs (hpart hrest)
    · split
      · trivial
      · split
        · trivial
        · split
          · rename_i rest hrest
            cases hp : portOf? rest with
            | none => trivial
            | some p =>
                exact canonical_of_portOf?
                  (fun hmem => hcs ((hpart hrest).subset hmem)) hp
          · trivial

/-- The title is read back. -/
theorem Line.ofChars_title {title : String}
    (h : Text.Inline title.toList) :
    Line.ofChars ("title: " ++ title).toList = .title title := by
  by_cases hne : title.toList = []
  · obtain rfl : title = "" := by simpa using hne
    decide
  · have htrim : Text.trimEndChars ("title: ".toList ++ title.toList) =
        "title: ".toList ++ title.toList := by
      refine Text.trimEndChars_eq_self (fun c hc => h.2.2 c ?_)
      rwa [List.getLast?_append_of_ne_nil _ hne] at hc
    have hrest : Text.trimChars (' ' :: title.toList) = title.toList :=
      Text.trimChars_eq_self h.2
    rw [Line.ofChars, String.toList_append, htrim]
    simp [afterStart?, hrest]

/-- A port is read back. -/
theorem Line.ofChars_itemLine {p : Port} (h : p.Canonical) :
    Line.ofChars (itemLine p).toList = .item (some p) := by
  have htrim : Text.trimEndChars (itemLine p).toList = (itemLine p).toList := by
    refine Text.trimEndChars_eq_self (fun c hc => ?_)
    rw [toList_itemLine, getLast?_itemChars] at hc
    cases hc
    decide
  rw [Line.ofChars, htrim, toList_itemLine]
  simp [afterStart?, portOf?_itemChars h]

/-! ## What is read -/

namespace Draft

variable {d d' : Draft} {which : Section} {n : Nat}

/-- Whether nothing so far is not canonical. -/
structure Canonical (d : Draft) : Prop where
  /-- The title, if there is one. -/
  title : ∀ t, d.title = some t → Text.Inline t.toList
  /-- The ports. -/
  ports : ∀ which, CanonicalPorts (d.ports which)

/-- There is nothing in an empty draft. -/
theorem canonical_empty : ({} : Draft).Canonical := by
  refine ⟨nofun, fun which => ?_⟩
  cases which <;> exact ⟨nofun, List.nodup_nil⟩

/-- A port that is added comes to its own section. -/
theorem ports_addPort (d : Draft) (which other : Section) (p : Port) :
    (d.addPort which p).ports other =
      if which = other then p :: d.ports other else d.ports other := by
  cases which <;> cases other <;> rfl

@[simp] theorem title_addPort (d : Draft) (which : Section) (p : Port) :
    (d.addPort which p).title = d.title := by
  cases which <;> rfl

@[simp] theorem current_addPort (d : Draft) (which : Section) (p : Port) :
    (d.addPort which p).current = d.current := by
  cases which <;> rfl

/-- A draft stays canonical if the name of a new port is new in its
    section. -/
theorem Canonical.addPort (h : d.Canonical) {p : Port} (hp : p.Canonical)
    (hnew : ∀ q ∈ d.ports which, q.name ≠ p.name) :
    (d.addPort which p).Canonical := by
  refine ⟨by simpa using h.title, fun other => ?_⟩
  rw [ports_addPort]
  split
  · rename_i heq
    subst heq
    refine ⟨List.forall_mem_cons.mpr ⟨hp, (h.ports which).each⟩, ?_⟩
    rw [List.map_cons, List.nodup_cons]
    refine ⟨fun hmem => ?_, (h.ports which).names⟩
    obtain ⟨q, hq, hname⟩ := List.mem_map.mp hmem
    exact hnew q hq hname
  · exact h.ports other

/-- A line that is taken in leaves the draft canonical. -/
theorem Canonical.line (h : d.Canonical) {l : Line} (hl : l.Canonical)
    (hd : d.line n l = .ok d') : d'.Canonical := by
  cases l with
  | blank =>
      cases hd
      exact h
  | title text =>
      simp only [Draft.line] at hd
      split at hd
      · cases hd
      · cases hd
        refine ⟨fun t ht => ?_, h.ports⟩
        cases ht
        exact hl
  | header which =>
      simp only [Draft.line] at hd
      split at hd
      · cases hd
      · cases hd
        exact ⟨h.title, h.ports⟩
  | item port =>
      simp only [Draft.line] at hd
      split at hd
      · cases hd
      · cases hd
      · rename_i which p _
        split at hd
        · cases hd
        · rename_i hnew
          cases hd
          exact h.addPort hl (by simpa using hnew)
  | other => cases hd

/-- By induction over the lines: what canonical lines make of a canonical
    draft is canonical. -/
theorem Canonical.lines {ls : List Line} (h : d.Canonical)
    (hls : ∀ l ∈ ls, l.Canonical) (hd : d.lines n ls = .ok d') :
    d'.Canonical := by
  induction ls generalizing d n with
  | nil =>
      cases hd
      exact h
  | cons l rest ih =>
      obtain ⟨hl, hrest⟩ := List.forall_mem_cons.mp hls
      rw [Draft.lines] at hd
      split at hd
      · rename_i d₁ hline
        exact ih (h.line hl hline) hrest hd
      · cases hd

end Draft

/-- Only canonical structures are read from texts. -/
theorem canonical_of_parse {text : String} {s : Structure}
    (h : parse text = .ok s) : s.Canonical := by
  unfold parse at h
  split at h
  · rename_i d hd
    have hlines : ∀ l ∈ (Text.charLines text.toList).map Line.ofChars,
        l.Canonical := by
      intro l hl
      obtain ⟨cs, hcs, rfl⟩ := List.mem_map.mp hl
      exact Line.canonical_ofChars (Text.not_mem_of_mem_charLines hcs)
    have hcanon := Draft.canonical_empty.lines hlines hd
    unfold Draft.finish at h
    split at h
    · rename_i title htitle
      cases h
      exact ⟨hcanon.title title htitle, (hcanon.ports .inputs).reverse,
        (hcanon.ports .outputs).reverse⟩
    · cases h
  · cases h

/-- No port of a structure text has options. -/
theorem extra_of_parse {text : String} {s : Structure}
    (h : parse text = .ok s) :
    (∀ p ∈ s.inputs, p.extra = none) ∧ (∀ p ∈ s.outputs, p.extra = none) :=
  have hs := canonical_of_parse h
  ⟨fun p hp => (hs.inputs.each p hp).extra,
    fun p hp => (hs.outputs.each p hp).extra⟩

/-! ## What is read after it was written -/

namespace Draft

variable {d : Draft} {which : Section} {n : Nat}

/-- Lines are read one after the other, each with its number. -/
theorem lines_append {d' : Draft} {ls : List Line} (rest : List Line)
    (h : d.lines n ls = .ok d') :
    d.lines n (ls ++ rest) = d'.lines (n + ls.length) rest := by
  induction ls generalizing d n with
  | nil =>
      cases h
      rfl
  | cons l ls ih =>
      rw [Draft.lines] at h
      rw [List.cons_append, Draft.lines]
      split at h
      · rename_i d₁ hline
        rw [ih h, List.length_cons]
        congr 1
        omega
      · cases h

/-- Add ports to a list, one after the other. -/
def addPorts (d : Draft) (which : Section) (ps : List Port) : Draft :=
  match which with
  | .inputs => { d with inputs := ps.reverse ++ d.inputs }
  | .outputs => { d with outputs := ps.reverse ++ d.outputs }

@[simp] theorem addPorts_nil (d : Draft) (which : Section) :
    d.addPorts which [] = d := by
  cases which <;> rfl

/-- Ports are added one after the other. -/
theorem addPorts_cons (d : Draft) (which : Section) (p : Port)
    (ps : List Port) :
    d.addPorts which (p :: ps) = (d.addPort which p).addPorts which ps := by
  cases which <;> simp [addPorts, addPort]

/-- Ports with new names are all taken in, in their order. -/
theorem lines_items {ps : List Port} (hcurrent : d.current = some which)
    (hnames : (ps.map (·.name)).Nodup)
    (hnew : ∀ p ∈ ps, ∀ q ∈ d.ports which, q.name ≠ p.name) :
    d.lines n (ps.map (fun p => .item (some p))) =
      .ok (d.addPorts which ps) := by
  induction ps generalizing d n with
  | nil => rw [addPorts_nil, List.map_nil, Draft.lines]
  | cons p ps ih =>
      obtain ⟨hp, hps⟩ := List.forall_mem_cons.mp hnew
      rw [List.map_cons, List.nodup_cons] at hnames
      have hline : d.line n (.item (some p)) = .ok (d.addPort which p) := by
        simp only [Draft.line, hcurrent]
        exact if_neg (by simpa using hp)
      rw [List.map_cons, Draft.lines, hline, addPorts_cons]
      refine ih (by simpa using hcurrent) hnames.2 (fun p' hp' q hq => ?_)
      rw [ports_addPort, if_pos rfl] at hq
      rcases List.mem_cons.mp hq with rfl | hq
      · rintro heq
        exact hnames.1 (List.mem_map.mpr ⟨p', hp', heq.symm⟩)
      · exact hps p' hp' q hq

end Draft

variable {s : Structure}

/-- What the lines of a structure say. -/
def saidLines (s : Structure) : List Line :=
  [.title s.title, .header .inputs]
    ++ s.inputs.map (fun p => .item (some p))
    ++ [.header .outputs] ++ s.outputs.map (fun p => .item (some p))

/-- The lines that a canonical structure is written on say what it is. -/
theorem map_ofChars_renderLines (h : s.Canonical) :
    (s.renderLines.map String.toList).map Line.ofChars = s.saidLines := by
  have hitems {ps : List Port} (hps : CanonicalPorts ps) :
      ((ps.map itemLine).map String.toList).map Line.ofChars =
        ps.map (fun p => .item (some p)) := by
    rw [List.map_map, List.map_map]
    refine List.map_congr_left (fun p hp => ?_)
    rw [Function.comp_apply, Function.comp_apply,
      Line.ofChars_itemLine (hps.each p hp)]
  simp only [renderLines, saidLines, List.map_append, hitems h.inputs,
    hitems h.outputs, List.map_cons, List.map_nil, Line.ofChars_title h.title]
  rfl

/-- What the lines of a structure say makes up the structure. -/
theorem lines_saidLines (h : s.Canonical) :
    ({} : Draft).lines 1 s.saidLines =
      .ok ⟨some s.title, some .outputs, [.outputs, .inputs],
        s.inputs.reverse, s.outputs.reverse⟩ := by
  have hhead : ({} : Draft).lines 1 [.title s.title, .header .inputs] =
      .ok ⟨some s.title, some .inputs, [.inputs], [], []⟩ := rfl
  have hin : ({} : Draft).lines 1 ([.title s.title, .header .inputs]
      ++ s.inputs.map (fun p => .item (some p))) =
        .ok ⟨some s.title, some .inputs, [.inputs], s.inputs.reverse, []⟩ := by
    rw [Draft.lines_append _ hhead,
      Draft.lines_items rfl h.inputs.names (by simp [Draft.ports])]
    simp [Draft.addPorts]
  rw [saidLines, List.append_assoc, Draft.lines_append _ hin,
    List.singleton_append, Draft.lines]
  simp only [Draft.line]
  rw [if_neg (by decide)]
  simp only
  rw [Draft.lines_items rfl h.outputs.names (by simp [Draft.ports])]
  simp [Draft.addPorts]

/-- A canonical title stands on one line and has no blank at its end. -/
theorem whole_title {title : String} (h : Text.Inline title.toList) :
    Text.Whole ("title: " ++ title).toList where
  one := by simp [h.1]
  ne_nil := by simp
  kept := by
    intro hlast
    rw [String.toList_append] at hlast
    by_cases hne : title.toList = []
    · simp [hne] at hlast
    · rw [List.getLast?_append_of_ne_nil _ hne] at hlast
      exact absurd (h.2.2 _ hlast) (by decide)

/-- A canonical port stands on one line and has no blank at its end. -/
theorem whole_itemLine {p : Port} (h : p.Canonical) :
    Text.Whole (itemLine p).toList where
  one := by simp [itemLine, h.name.1, h.type.1]
  ne_nil := by simp [itemLine]
  kept := by
    rw [toList_itemLine, getLast?_itemChars]
    decide

/-- The lines of a canonical structure are read back. -/
theorem charLines_render (h : s.Canonical) :
    Text.charLines s.render.toList = s.renderLines.map String.toList := by
  rw [render, String.toList_intercalate]
  refine Text.charLines_intercalate (fun l hl => ?_)
  obtain ⟨line, hline, rfl⟩ := List.mem_map.mp hl
  have hitem {ps : List Port} (hps : CanonicalPorts ps)
      (hmem : line ∈ ps.map itemLine) : Text.Whole line.toList := by
    obtain ⟨p, hp, rfl⟩ := List.mem_map.mp hmem
    exact whole_itemLine (hps.each p hp)
  simp only [renderLines, List.mem_append, List.mem_cons, List.not_mem_nil,
    or_false] at hline
  rcases hline with (((rfl | rfl) | hin) | rfl) | hout
  · exact whole_title h.title
  · exact ⟨by decide, by decide, by decide⟩
  · exact hitem h.inputs hin
  · exact ⟨by decide, by decide, by decide⟩
  · exact hitem h.outputs hout

/-- A canonical structure is read back after it is written. -/
theorem parse_render (h : s.Canonical) : parse s.render = .ok s := by
  rw [parse, charLines_render h, map_ofChars_renderLines h, lines_saidLines h]
  simp [Draft.finish]

/-- The structures that are read back after they are written are the
    canonical ones, and whatever is read from a text is one of them. -/
theorem round_trip_iff_canonical :
    (∀ s : Structure, parse s.render = .ok s ↔ s.Canonical) ∧
      ∀ (text : String) (s : Structure), parse text = .ok s →
        s.Canonical ∧ parse s.render = .ok s :=
  ⟨fun _ => ⟨canonical_of_parse, parse_render⟩,
    fun _ _ h => ⟨canonical_of_parse h, parse_render (canonical_of_parse h)⟩⟩

/-- A text with its lists in another order, blanks where none are needed and
    a type with parentheses of its own. -/
theorem round_trip_iff_canonical_nested :
    let text := "outputs:\n  -  f(x  ( array(number) ) \r\n\ntitle:Adder "
    let s : Structure :=
      ⟨"Adder", [], [⟨"f(x", "array(number)", none⟩]⟩
    parse text = .ok s ∧ s.Canonical ∧ parse s.render = .ok s := by
  intro text s
  have h : parse text = .ok s := by decide +kernel
  exact ⟨h, round_trip_iff_canonical.2 text s h⟩

end Structure
end NodeFlow
