import NodeFlow.Proofs.Editor.Commits

/-! # What the surface shows

    An editor presents what is selected: the side of the node that is asked
    for, or nothing if no node is selected.  Whatever has happened before,
    once another node or another side has been asked for, the edit of what was
    shown before is saved or given up, and the surface presents what is
    selected as it is after that (`presents_what_is_selected`).  To show it
    again changes nothing. -/

namespace NodeFlow

/-! ## What is there stays there -/

namespace Workbench

variable {w w' : Workbench} {clock : Timestamp} {id text : String} {mode : Mode}

/-- A record that is written anew is there as before. -/
theorem isSome_liveRecord?_insert {x y : Record}
    (hx : w.liveRecord? id = some x)
    (hrecords : w'.registry.records = w.registry.records.insert id y)
    (hy : y.removed = x.removed) (i : String) :
    (w'.liveRecord? i).isSome = (w.liveRecord? i).isSome := by
  have hlive : x.removed = false := by
    simpa using (Option.filter_eq_some_iff.mp hx).2
  by_cases hi : i = id
  · have hnew : w'.liveRecord? id = some y := by
      unfold liveRecord? Registry.record?
      rw [hrecords, Table.get?_insert, if_pos rfl]
      simp [hy, hlive]
    rw [hi, hnew, hx]
    rfl
  · unfold liveRecord? Registry.record?
    rw [hrecords, Table.get?_insert, if_neg hi]

/-- Saving neither makes nor removes a record. -/
theorem Wrote.isSome_liveRecord? (h : w.Wrote clock id text mode w')
    (i : String) : (w'.liveRecord? i).isSome = (w.liveRecord? i).isSome := by
  cases h with
  | outline hx _ _ _ => exact isSome_liveRecord?_insert hx (by rfl) (by rfl) i
  | code hx => exact isSome_liveRecord?_insert hx (by rfl) (by rfl) i
  | description hx => exact isSome_liveRecord?_insert hx (by rfl) (by rfl) i

/-- Saving a text neither adds nor removes a node. -/
theorem isSome_liveRecord?_save (w : Workbench) (clock : Timestamp)
    (id : String) (mode : Mode) (text i : String) :
    ((w.save clock id mode text).2.liveRecord? i).isSome
      = (w.liveRecord? i).isSome := by
  by_cases h : (w.save clock id mode text).1 = .committed
  · exact (wrote_of_save h).isSome_liveRecord? i
  · rw [save_of_ne_committed h]

end Workbench

namespace Desk

/-- Whether the surface shows what is selected. -/
inductive Presents (d : Desk) : Prop where
  /-- The side of the node that is asked for, in its language. -/
  | node {id : String} {r : Record} (hid : d.editor.selection = some id)
      (hr : d.liveRecord? id = some r)
      (text : d.editor.surface.text = r.viewText d.editor.mode)
      (language : d.editor.surface.language = r.viewLanguage d.editor.mode)
  /-- No node is selected, and the surface is empty. -/
  | nothing (hid : d.editor.selection = none)
      (text : d.editor.surface.text = "")
      (language : d.editor.surface.language = "plaintext")

/-- What is said of a desk on which something else has been selected. -/
structure Presented (d d' : Desk) : Prop where
  /-- An edit has been saved, or refused, as what it was an edit of. -/
  saved : d.editor.dirty = true →
    ∃ id, d.editor.selection = some id
      ∧ d'.bench
        = (d.bench.save d.clock id d.editor.mode d.editor.surface.text).2
  /-- Without an edit the workbench is as it was. -/
  kept : d.editor.dirty = false → d'.bench = d.bench
  /-- The surface shows what is selected. -/
  presents : d'.Presents
  /-- There is no edit any more, and nothing is going on. -/
  rest : AtRest d'.editor
  /-- To show it again changes nothing. -/
  again : d'.render = d'
  /-- Neither surface nor workbench changes if it is shown again after changes
      of the surface have been heard of. -/
  later : ∀ now count,
    (d'.changedTimes now count).render.editor.surface = d'.editor.surface
      ∧ (d'.changedTimes now count).render.bench = d'.bench

variable {d : Desk} {e : Editor} {id : String} {r : Record}
  {text language : String}

/-! ## Putting a text on the surface -/

/-- The text that is put on the surface is there then. -/
theorem put_text (e : Editor) (text language : String) :
    (put e text language).surface.text = text := by
  unfold put putText
  split
  · assumption
  · rfl

/-- Its language is that of the surface then. -/
theorem put_language (e : Editor) (text language : String) :
    (put e text language).surface.language = language := rfl

/-- A text that is there is not written again. -/
theorem put_of_shown (htext : e.surface.text = text)
    (hlanguage : e.surface.language = language) : put e text language = e := by
  unfold put putText
  rw [if_pos htext, ← hlanguage]
  rfl

/-- A text that is put on the surface changes neither selection nor side. -/
theorem put_shows (e : Editor) (text language : String) :
    (put e text language).selection = e.selection
      ∧ (put e text language).mode = e.mode := by
  unfold put putText
  split <;> exact ⟨rfl, rfl⟩

/-- A record that is live is shown as the side that is asked for. -/
theorem render_of_live (hid : d.editor.selection = some id)
    (hr : d.liveRecord? id = some r) :
    d.render = d.edit (fun e =>
      { put e (r.viewText e.mode) (r.viewLanguage e.mode) with
        state := .idle }) := by
  unfold render
  rw [hid, Option.bind_some, hr]

/-- A node that is there is presented once it is shown. -/
theorem presents_render (hid : d.editor.selection = some id)
    (hr : d.liveRecord? id = some r) : d.render.Presents := by
  obtain ⟨hselection, hmode⟩ := put_shows d.editor
    (r.viewText d.editor.mode) (r.viewLanguage d.editor.mode)
  rw [render_of_live hid hr]
  refine .node (hselection.trans hid) hr ?_ ?_
  · exact (put_text ..).trans (congrArg r.viewText hmode.symm)
  · exact (put_language ..).trans (congrArg r.viewLanguage hmode.symm)

/-! ## Showing it again -/

/-- What is presented is not written again. -/
theorem Presents.render (h : d.Presents) :
    d.render = d
      ∨ d.render = d.edit (fun e => { e with state := .idle }) := by
  cases h with
  | node hid hr htext hlanguage =>
      right
      have hsame := put_of_shown htext hlanguage
      rw [render_of_live hid hr]
      exact edit_congr (congrArg (fun e => { e with state := .idle }) hsame)
  | nothing hid _ _ =>
      left
      unfold Desk.render
      rw [hid]
      rfl

/-- What is shown already is not written again. -/
theorem Presents.render_eq (h : d.Presents) (hstate : d.editor.state = .idle) :
    d.render = d := by
  rcases h.render with heq | heq
  · exact heq
  · rw [heq]
    unfold edit
    rw [← hstate]

/-- Showing again leaves text and workbench as they are. -/
theorem Presents.render_same (h : d.Presents) :
    d.render.editor.surface = d.editor.surface ∧ d.render.bench = d.bench := by
  refine ⟨?_, d.render_bench⟩
  rcases h.render with heq | heq
  · rw [heq]
  · rw [heq]
    rfl

/-- Hearing of a change does not change what is presented. -/
theorem Presents.contentChanged (h : d.Presents) (now : Nat) :
    (d.contentChanged now).Presents := by
  have hsurface := d.contentChanged_surface now
  obtain ⟨hselection, hmode⟩ := d.contentChanged_shown now
  cases h with
  | node hid hr htext hlanguage =>
      refine .node (hselection.trans hid) hr ?_ ?_
      · rw [hsurface, hmode, htext]
      · rw [hsurface, hmode, hlanguage]
  | nothing hid htext hlanguage =>
      refine .nothing (hselection.trans hid) ?_ ?_
      · rw [hsurface, htext]
      · rw [hsurface, hlanguage]

/-- By induction over the changes: hearing of them leaves what is shown as it
    is. -/
theorem Presents.changedTimes (h : d.Presents) (now count : Nat) :
    (d.changedTimes now count).Presents
      ∧ (d.changedTimes now count).editor.surface = d.editor.surface
      ∧ (d.changedTimes now count).bench = d.bench := by
  induction count generalizing d with
  | zero => exact ⟨h, rfl, rfl⟩
  | succ count ih =>
      obtain ⟨hpresents, hsurface, hbench⟩ := ih (h.contentChanged now)
      exact ⟨hpresents, hsurface.trans (d.contentChanged_surface now), hbench⟩

/-! ## Selecting something else -/

/-- Something else is shown once an edit has been saved. -/
theorem Steady.presented (h : Steady d.editor) {d' : Desk}
    (hbench : d'.bench = d.flush.2.bench) (hpresents : d'.Presents)
    (hrest : AtRest d'.editor) : d.Presented d' where
  saved hdirty := by
    obtain ⟨id, hid, -, hsaved⟩ := (h.flush_dirty hdirty).saved
    exact ⟨id, hid, hbench.trans hsaved⟩
  kept hclean := by
    have hwas := h.atRest hclean
    rw [hbench, flush_of_clean hwas.dirty hwas.deadline]
  presents := hpresents
  rest := hrest
  again := hpresents.render_eq hrest.state
  later now count := by
    obtain ⟨hlater, hsurface, hsame⟩ := hpresents.changedTimes now count
    obtain ⟨hsurface', hsame'⟩ := hlater.render_same
    exact ⟨hsurface'.trans hsurface, hsame'.trans hsame⟩

/-- Saving an edit at once neither adds nor removes a node. -/
theorem Steady.isSome_liveRecord?_flush (h : Steady d.editor) (id : String) :
    (d.flush.2.liveRecord? id).isSome = (d.liveRecord? id).isSome := by
  show (d.flush.2.bench.liveRecord? id).isSome
    = (d.bench.liveRecord? id).isSome
  rcases h.attempted_flush.saved with ⟨-, hbench⟩ | ⟨-, i, -, hsave⟩
  · rw [hbench]
  · rw [(Prod.mk.inj hsave).2]
    exact Workbench.isSome_liveRecord?_save ..

/-- A record is still live once an edit has been saved. -/
theorem Steady.exists_live_flush (h : Steady d.editor)
    (hlive : (d.liveRecord? id).isSome = true) :
    ∃ r, d.flush.2.liveRecord? id = some r :=
  Option.isSome_iff_exists.mp ((h.isSome_liveRecord?_flush id).trans hlive)

/-- A shift to a live record selects and shows it, in the same mode. -/
theorem shift_of_live (hr : d.liveRecord? id = some r) :
    (d.shift (some id)).editor.selection = some id
      ∧ (d.shift (some id)).editor.mode = d.editor.mode
      ∧ (d.shift (some id)).Presents := by
  have htarget : (some id).filter (fun i => (d.liveRecord? i).isSome)
      = some id := by
    rw [Option.filter_some, hr]
    rfl
  have heq : d.shift (some id)
      = (d.turned (some id)).render.edit
          (fun e => { e with switching := false, state := .idle }) := by
    unfold shift
    simp only [htarget]
    rfl
  have hredrawn := (d.turned (some id)).redrawn_render
  have hpresents : (d.turned (some id)).render.Presents :=
    presents_render rfl hr
  rw [heq]
  refine ⟨hredrawn.selection, hredrawn.mode, ?_⟩
  cases hpresents with
  | node hid hr htext hlanguage => exact .node hid hr htext hlanguage
  | nothing hid htext hlanguage => exact .nothing hid htext hlanguage

/-- A shift to anything else selects and shows nothing. -/
theorem shift_of_none {id : Option String}
    (hnone : id.bind d.liveRecord? = none) :
    (d.shift id).editor.selection = none ∧ (d.shift id).Presents := by
  have htarget : id.filter (fun i => (d.liveRecord? i).isSome) = none := by
    cases id with
    | none => rfl
    | some i =>
        rw [Option.bind_some] at hnone
        rw [Option.filter_some, hnone]
        rfl
  have heq : d.shift id
      = (d.turned none).clearSurface.edit
          (fun e => { e with switching := false, state := .idle }) := by
    unfold shift
    simp only [htarget]
    rfl
  have hredrawn := (d.turned none).redrawn_clearSurface
  rw [heq]
  exact ⟨hredrawn.selection, .nothing hredrawn.selection (put_text ..) rfl⟩

/-- What is said of an editor that is asked for something else. -/
structure PresentsWhatIsSelected (d : Desk) : Prop where
  /-- Another node that is there is selected, and presented. -/
  node : ∀ id, some id ≠ d.editor.selection →
    (d.liveRecord? id).isSome = true →
      (d.select (some id)).editor.selection = some id
        ∧ (d.select (some id)).editor.mode = d.editor.mode
        ∧ d.Presented (d.select (some id))
  /-- If no node is asked for, or one that is not there, none is selected, and
      the surface is empty. -/
  nothing : ∀ id, id ≠ d.editor.selection → id.bind d.liveRecord? = none →
    (d.select id).editor.selection = none ∧ d.Presented (d.select id)
  /-- Another side of the selected node is presented if the node is there. -/
  side : ∀ mode id, mode ≠ d.editor.mode → d.editor.selection = some id →
    (d.liveRecord? id).isSome = true →
      (d.switchMode mode).editor.selection = some id
        ∧ (d.switchMode mode).editor.mode = mode
        ∧ d.Presented (d.switchMode mode)

/-- Another node that is live is presented when it is selected. -/
theorem Steady.presented_select (h : Steady d.editor)
    (hid : some id ≠ d.editor.selection)
    (hlive : (d.liveRecord? id).isSome = true) :
    (d.select (some id)).editor.selection = some id
      ∧ (d.select (some id)).editor.mode = d.editor.mode
      ∧ d.Presented (d.select (some id)) := by
  obtain ⟨r, hr⟩ := h.exists_live_flush hlive
  obtain ⟨hselection, hmode, hpresents⟩ := shift_of_live hr
  obtain ⟨dirty, state, counts, heq⟩ := d.flush_editor
  rw [select_of_ne hid]
  refine ⟨hselection, hmode.trans (by rw [heq]), ?_⟩
  exact h.presented (d.flush.2.shift_untold _).1 hpresents (atRest_shift _ _)

/-- Nothing is presented when nothing that is live is selected. -/
theorem Steady.presented_deselect (h : Steady d.editor) {id : Option String}
    (hid : id ≠ d.editor.selection) (hnone : id.bind d.liveRecord? = none) :
    (d.select id).editor.selection = none ∧ d.Presented (d.select id) := by
  have hnone' : id.bind d.flush.2.liveRecord? = none := by
    cases id with
    | none => rfl
    | some i =>
        have hsame := h.isSome_liveRecord?_flush i
        rw [Option.bind_some] at hnone ⊢
        rw [hnone] at hsame
        exact Option.isNone_iff_eq_none.mp (Option.isSome_eq_false_iff.mp hsame)
  obtain ⟨hselection, hpresents⟩ := shift_of_none hnone'
  rw [select_of_ne hid]
  exact ⟨hselection,
    h.presented (d.flush.2.shift_untold _).1 hpresents (atRest_shift _ _)⟩

/-- Another side of the selected node is presented when it is asked for. -/
theorem Steady.presented_switchMode (h : Steady d.editor) {mode : Mode}
    (hmode : mode ≠ d.editor.mode) (hid : d.editor.selection = some id)
    (hlive : (d.liveRecord? id).isSome = true) :
    (d.switchMode mode).editor.selection = some id
      ∧ (d.switchMode mode).editor.mode = mode
      ∧ d.Presented (d.switchMode mode) := by
  obtain ⟨r, hr⟩ := h.exists_live_flush hlive
  obtain ⟨dirty, state, counts, heq⟩ := d.flush_editor
  have hturned : (d.flush.2.edit (fun e =>
      { e with mode := mode })).editor.selection = some id := by
    show d.flush.2.editor.selection = some id
    rw [heq]
    exact hid
  have hredrawn :=
    (d.flush.2.edit (fun e => { e with mode := mode })).redrawn_render
  have hrest :
      AtRest (d.flush.2.edit (fun e => { e with mode := mode })).editor :=
    ⟨h.flush.switching, h.flush.dirty, h.flush.deadline, h.flush.state⟩
  have hpresents : (d.flush.2.edit (fun e =>
      { e with mode := mode })).render.Presents := presents_render hturned hr
  rw [switchMode, if_neg hmode]
  exact ⟨hredrawn.selection.trans hturned, hredrawn.mode,
    h.presented hredrawn.bench hpresents hrest.render⟩

/-- Whatever a new editor has been asked and told, and whatever else has
    happened: when it is asked for something else, it saves what is there to
    save and then presents what is selected. -/
theorem presents_what_is_selected (config : EditorConfig) (w : Workbench)
    (s : Surface) (clock : Timestamp) (notes : List String)
    (hs : List Happening) :
    PresentsWhatIsSelected ((opened config w s clock notes).happenAll hs) := by
  have hnew : Attended (opened config w s clock notes) :=
    .new config w s clock notes
  have hsteady := (attended_happenAll hnew hs).steady
  exact
    { node := fun id hid hlive => hsteady.presented_select hid hlive
      nothing := fun id hid hnone => hsteady.presented_deselect hid hnone
      side := fun mode id hmode hid hlive =>
        hsteady.presented_switchMode hmode hid hlive }

/-- Code that is empty is presented by a starter with the inputs of the edit
    that was saved just before. -/
example :
    let shell := Template.codeNode "shell" "Shell" ⟨"input", "string", none⟩
      ⟨"result", "object", none⟩
    let w := ((⟨{}, { templates := Table.empty.insert "code/shell" shell }⟩ :
      Workbench).addNode "code/shell").2
    let d := (opened {} w {} default []).happenAll
      [.prompt (.command 0 (.select (some "1"))),
        .prompt (.command 0 .contentChanged),
        .disturbed w { text := "title: Sum\ninputs:\n  - a (any)" } default,
        .prompt (.command 0 .contentChanged)]
    (d.switchMode .code).editor.surface.text
      = "# $INPUT_0 (a)\n# write your code here" := by
  decide +kernel

end Desk
end NodeFlow
