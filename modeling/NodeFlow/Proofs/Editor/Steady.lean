import NodeFlow.Editor.Loop
import NodeFlow.Proofs.Editor.Groups

/-! # Editors between commands

    Whatever an editor is told, and whenever it hears of changes, an edit
    that is not saved, an armed timer and the state of editing come and go
    together, and while there is an edit nothing keeps it from being saved
    (`Attended.steady`).  So the loop that works for an editor leaves no edit
    behind when it ends, whichever of a command and the timer comes first; and
    it ends, once nobody tells it anything any more
    (`EditorLoop.steady_to_the_end`). -/

namespace NodeFlow.Desk

/-- What can be relied on of an editor between two commands. -/
structure Steady (e : Editor) : Prop where
  /-- The selection is not changing. -/
  switching : e.switching = false
  /-- The timer is armed exactly while there is an edit. -/
  armed : e.dirty = true ↔ e.timer.isArmed = true
  /-- So is the user editing. -/
  editing : e.dirty = true ↔ e.state = .editing
  /-- Otherwise nothing is going on. -/
  idle : e.dirty = false → e.state = .idle
  /-- An edit is one of a node. -/
  selected : e.dirty = true → e.selection.isSome = true
  /-- No change is expected while there is one. -/
  unexpected : e.dirty = true → e.rendering = false

/-- An editor without an edit. -/
structure AtRest (e : Editor) : Prop where
  /-- The selection is not changing. -/
  switching : e.switching = false
  /-- There is no edit. -/
  dirty : e.dirty = false
  /-- The timer is not armed. -/
  deadline : e.timer.deadline = none
  /-- Nothing is going on. -/
  state : e.state = .idle

variable {e : Editor} {d : Desk} {now : Nat} {c : EditorCommand}

/-- An editor at rest is steady. -/
theorem AtRest.steady (h : AtRest e) : Steady e where
  switching := h.switching
  armed := by simp [h.dirty, Debounce.isArmed, h.deadline]
  editing := by simp [h.dirty, h.state]
  idle _ := h.state
  selected hdirty := by simp [h.dirty] at hdirty
  unexpected hdirty := by simp [h.dirty] at hdirty

/-- There is no deadline exactly if there is no edit. -/
theorem Steady.deadline_eq_none_iff (h : Steady e) :
    e.timer.deadline = none ↔ e.dirty = false := by
  rw [← Bool.not_eq_true, h.armed]
  simp [Debounce.isArmed]

/-- A steady editor without an edit is at rest. -/
theorem Steady.atRest (h : Steady e) (hdirty : e.dirty = false) :
    AtRest e :=
  ⟨h.switching, hdirty, h.deadline_eq_none_iff.mpr hdirty, h.idle hdirty⟩

/-! ## Saving -/

/-- What comes of saving the text on the surface to the selected node: the
    attempt is made, and the editor is at rest. -/
structure SavedNow (d : Desk) (r : CommitOutcome × Desk) : Prop where
  /-- The text is saved to the node that is selected. -/
  saved : ∃ id, d.editor.selection = some id
    ∧ r.1 = (d.bench.save d.clock id d.editor.mode d.editor.surface.text).1
    ∧ r.2.bench
      = (d.bench.save d.clock id d.editor.mode d.editor.surface.text).2
  /-- The attempt comes to something. -/
  made : r.1 ≠ .nothing
  /-- The surface stays. -/
  surface : r.2.editor.surface = d.editor.surface
  /-- The editor is at rest. -/
  rest : AtRest r.2.editor

/-- Saving leaves an editor as it is but for its edit, its state and what it
    has counted. -/
theorem commit_editor (d : Desk) :
    ∃ dirty state counts, d.commit.2.editor
      = { d.editor with dirty := dirty, state := state, counts := counts } := by
  unfold Desk.commit
  split
  · exact ⟨_, _, _, rfl⟩
  · rename_i id _
    split
    · exact ⟨_, _, _, rfl⟩
    · obtain ⟨notes, heq⟩ :=
        attempt_eq (d.edit (fun e => { e with dirty := false })) id
      simp only [heq]
      exact ⟨_, _, _, rfl⟩

/-- Saving at once also stops the timer. -/
theorem flush_editor (d : Desk) :
    ∃ dirty state counts, d.flush.2.editor
      = { d.editor with
          timer := d.editor.timer.cancel
          dirty := dirty
          state := state
          counts := counts } := by
  unfold Desk.flush
  simp only
  split
  · exact commit_editor (d.edit (fun e => { e with timer := e.timer.cancel }))
  · exact ⟨_, _, _, rfl⟩

/-- An edit is not held back by the guard before saving. -/
theorem Steady.commit (h : Steady d.editor) (hdirty : d.editor.dirty = true) :
    SavedNow d
      (d.edit (fun e => { e with timer := e.timer.cancel })).commit := by
  obtain ⟨id, hsel⟩ := Option.isSome_iff_exists.mp (h.selected hdirty)
  obtain ⟨notes, heq⟩ := commit_eq
    (d := d.edit (fun e => { e with timer := e.timer.cancel })) hsel
    (h.unexpected hdirty) h.switching
  rw [heq]
  exact ⟨⟨id, hsel, rfl, rfl⟩, save_ne_nothing _ _ _ _ _, rfl,
    ⟨h.switching, rfl, rfl, rfl⟩⟩

/-- An edit is saved at once when that is asked for. -/
theorem Steady.flush_dirty (h : Steady d.editor)
    (hdirty : d.editor.dirty = true) : SavedNow d d.flush := by
  have hcommit := h.commit hdirty
  have heq : d.flush
      = (d.edit (fun e => { e with timer := e.timer.cancel })).commit :=
    if_pos hdirty
  rwa [heq]

/-- Once it has saved, the editor is at rest. -/
theorem Steady.flush (h : Steady d.editor) : AtRest d.flush.2.editor := by
  cases hdirty : d.editor.dirty with
  | true => exact (h.flush_dirty hdirty).rest
  | false =>
      have hrest := h.atRest hdirty
      rw [flush_of_clean hrest.dirty hrest.deadline]
      exact hrest

/-- To save writes nothing to the surface. -/
theorem Steady.flush_surface (h : Steady d.editor) :
    d.flush.2.editor.surface = d.editor.surface := by
  cases hdirty : d.editor.dirty with
  | true => exact (h.flush_dirty hdirty).surface
  | false =>
      have hrest := h.atRest hdirty
      rw [flush_of_clean hrest.dirty hrest.deadline]

/-- An edit is saved once the timer is due. -/
theorem Steady.poll_due (h : Steady d.editor)
    (hdue : d.editor.timer.isDue now = true) : SavedNow d (d.poll now) := by
  -- a timer that is due is armed
  have harmed : d.editor.timer.isArmed = true := by
    unfold Debounce.isDue at hdue
    unfold Debounce.isArmed
    split at hdue
    · rename_i t ht
      rw [ht]
      rfl
    · cases hdue
  have hcommit := h.commit (h.armed.mpr harmed)
  have heq : d.poll now
      = (d.edit (fun e => { e with timer := e.timer.cancel })).commit :=
    if_pos hdue
  rwa [heq]

/-- Nothing is saved before the timer is due. -/
theorem poll_not_due (hdue : ¬ d.editor.timer.isDue now = true) :
    d.poll now = (.nothing, d) :=
  if_neg hdue

/-- Asking the timer leaves the editor steady. -/
theorem Steady.poll (h : Steady d.editor) (now : Nat) :
    Steady (d.poll now).2.editor := by
  by_cases hdue : d.editor.timer.isDue now = true
  · exact (h.poll_due hdue).rest.steady
  · rw [poll_not_due hdue]
    exact h

/-! ## Showing -/

/-- At most one change comes of a text that is put on the surface. -/
structure Louder (e e' : Editor) : Prop where
  /-- The surface reports as before. -/
  weight : e'.surface.weight = e.surface.weight
  /-- At most one more change is unheard of. -/
  heard : e'.surface.heard ≤ e.surface.heard + e.surface.weight

/-- Only the surface has a say in what it reports. -/
theorem Louder.of_surface_eq {e₁ e₂ : Editor} (h : Louder e₁ e₂)
    (hsurface : e₁.surface = e.surface) : Louder e e₂ := by
  obtain ⟨hweight, hheard⟩ := h
  rw [hsurface] at hweight hheard
  exact ⟨hweight, hheard⟩

/-- Where nothing is written nothing is reported. -/
theorem louder_refl (e : Editor) : Louder e e :=
  ⟨rfl, Nat.le_add_right _ _⟩

/-- A text that is put on the surface is reported once. -/
theorem louder_put (e : Editor) (text language : String) :
    Louder e (put e text language) := by
  unfold put putText
  split
  · exact ⟨rfl, Nat.le_add_right _ _⟩
  · exact ⟨rfl, Nat.le_refl _⟩

/-- Showing a node puts one text on the surface. -/
theorem louder_render (d : Desk) : Louder d.editor d.render.editor := by
  unfold Desk.render
  split
  · exact louder_refl _
  · rename_i r _
    have h := louder_put d.editor (r.viewText d.editor.mode)
      (r.viewLanguage d.editor.mode)
    exact ⟨h.weight, h.heard⟩

/-- A shift of the selection puts one text on the surface. -/
theorem louder_shift (d : Desk) (id : Option String) :
    Louder d.editor (d.shift id).editor := by
  unfold Desk.shift
  simp only
  split
  · have h := louder_render
      (d.turned (id.filter (fun i => (d.liveRecord? i).isSome)))
    exact ⟨h.weight, h.heard⟩
  · have h := louder_put
      (d.turned (id.filter (fun i => (d.liveRecord? i).isSome))).editor ""
        "plaintext"
    exact ⟨h.weight, h.heard⟩

/-- An editor at rest is still so once it shows a node. -/
theorem AtRest.render (h : AtRest d.editor) : AtRest d.render.editor := by
  have hshown := d.render_shown
  refine ⟨hshown.switching.trans h.switching, hshown.dirty.trans h.dirty,
    by rw [hshown.timer, h.deadline], ?_⟩
  unfold Desk.render
  split
  · exact h.state
  · rfl

/-- Another selection gives up whatever there was. -/
theorem atRest_shift (d : Desk) (id : Option String) :
    AtRest (d.shift id).editor := by
  obtain ⟨d', hd', heq⟩ := d.redrawn_shift id
  rw [heq]
  refine ⟨rfl, hd'.shown.dirty, ?_, rfl⟩
  show d'.editor.timer.deadline = none
  rw [hd'.shown.timer]
  rfl

/-! ## Hearing of changes -/

/-- Without a selection, and while a change is expected, there is no edit; in
    all other cases there is one from then on. -/
theorem Steady.contentChanged (h : Steady d.editor) (now : Nat) :
    Steady (d.contentChanged now).editor := by
  cases hsel : d.editor.selection with
  | none =>
      -- without a selection there is no edit
      have hclean : d.editor.dirty = false := by
        rw [← Bool.not_eq_true]
        intro hdirty
        have hsome := h.selected hdirty
        rw [hsel] at hsome
        cases hsome
      have hrest := h.atRest hclean
      rw [contentChanged_of_none hsel]
      exact AtRest.steady
        ⟨hrest.switching, hrest.dirty, hrest.deadline, hrest.state⟩
  | some id =>
      cases hr : d.editor.rendering with
      | true =>
          -- no edit is there while an echo is expected
          have hclean : d.editor.dirty = false := by
            rw [← Bool.not_eq_true]
            intro hdirty
            rw [h.unexpected hdirty] at hr
            cases hr
          have hrest := h.atRest hclean
          rw [contentChanged_of_rendering hsel hr]
          exact AtRest.steady
            ⟨hrest.switching, hrest.dirty, hrest.deadline, hrest.state⟩
      | false =>
          -- an edit arms the timer, so that both are there
          rw [contentChanged_of_edited hsel hr]
          exact
            { switching := h.switching
              armed := iff_of_true rfl rfl
              editing := iff_of_true rfl rfl
              idle := nofun
              selected := fun _ => by
                show d.editor.selection.isSome = true
                rw [hsel]
                rfl
              unexpected := fun _ => hr }

/-! ## Commands in any order -/

/-- Carry out a command of the loop. -/
def obey (d : Desk) (now : Nat) : EditorCommand → Desk
  | .select id => d.select id
  | .contentChanged => d.contentChanged now
  | .switchMode mode => d.switchMode mode
  | .flush | .shutdown => d.flush.2

/-- A command other than the news of a change has no effect, or leaves no edit
    behind. -/
theorem Steady.obey_cases (h : Steady d.editor) (now : Nat)
    (hc : c ≠ .contentChanged) :
    d.obey now c = d
      ∨ (AtRest (d.obey now c).editor
          ∧ Louder d.editor (d.obey now c).editor) := by
  have hflush := h.flush
  have hsame := h.flush_surface
  cases c with
  | contentChanged => exact absurd rfl hc
  | select id =>
      show d.select id = d ∨ AtRest (d.select id).editor
        ∧ Louder d.editor (d.select id).editor
      by_cases hid : id = d.editor.selection
      · exact Or.inl (if_pos hid)
      · rw [select_of_ne hid]
        exact Or.inr ⟨atRest_shift _ id,
          (louder_shift _ id).of_surface_eq hsame⟩
  | switchMode mode =>
      by_cases hmode : mode = d.editor.mode
      · exact Or.inl (if_pos hmode)
      · -- before another side is shown the edit is saved
        have heq : d.obey now (.switchMode mode)
            = (d.flush.2.edit (fun e => { e with mode := mode })).render :=
          if_neg hmode
        rw [heq]
        exact Or.inr ⟨AtRest.render ⟨hflush.switching, hflush.dirty,
          hflush.deadline, hflush.state⟩,
          (louder_render _).of_surface_eq hsame⟩
  | flush => exact Or.inr ⟨hflush, (louder_refl _).of_surface_eq hsame⟩
  | shutdown => exact Or.inr ⟨hflush, (louder_refl _).of_surface_eq hsame⟩

/-- Every command leaves a steady editor steady. -/
theorem Steady.obey (h : Steady d.editor) (now : Nat) (c : EditorCommand) :
    Steady (d.obey now c).editor := by
  by_cases hc : c = .contentChanged
  · rw [hc]
    exact h.contentChanged now
  · obtain heq | ⟨hrest, -⟩ := h.obey_cases now hc
    · rw [heq]
      exact h
    · exact hrest.steady

/-- A desk on which anything but the editor has changed: the workbench, what
    is on the surface, and the clock. -/
def disturbed (d : Desk) (w : Workbench) (s : Surface) (clock : Timestamp) :
    Desk :=
  { d with
    bench := w
    clock := clock
    editor := { d.editor with surface := s } }

/-- What an editor comes to that is told of changes at any time. -/
inductive Attended : Desk → Prop where
  /-- It is new, on any workbench and any surface. -/
  | new (config : EditorConfig) (w : Workbench) (s : Surface)
      (clock : Timestamp) (notes : List String) :
      Attended
        { bench := w
          editor := { Editor.ofConfig config with surface := s }
          clock := clock
          notes := notes }
  /-- It is given a command, or told that the surface has changed. -/
  | obey {d : Desk} (h : Attended d) (now : Nat) (c : EditorCommand) :
      Attended (d.obey now c)
  /-- Its timer is looked at. -/
  | poll {d : Desk} (h : Attended d) (now : Nat) : Attended (d.poll now).2
  /-- Anything else changes. -/
  | disturbed {d : Desk} (h : Attended d) (w : Workbench) (s : Surface)
      (clock : Timestamp) : Attended (d.disturbed w s clock)

/-- By induction: an editor that is attended is steady, whatever else
    happens. -/
theorem Attended.steady (h : Attended d) : Steady d.editor := by
  induction h with
  | new => exact AtRest.steady ⟨rfl, rfl, rfl, rfl⟩
  | obey _ now c ih => exact ih.obey now c
  | poll _ now ih => exact ih.poll now
  | disturbed _ w s clock ih =>
      exact ⟨ih.switching, ih.armed, ih.editing, ih.idle, ih.selected,
        ih.unexpected⟩

/-! ## What is left to do -/

/-- What an editor has still to hear of and to save. -/
def unrest (e : Editor) : Nat := 2 * e.surface.heard + e.dirty.toNat

/-- More than a command adds to that on a surface with a weight. -/
def cost (weight : Nat) : EditorCommand → Nat
  | .contentChanged => 2
  | _ => 2 * weight + 1

/-- A change that is heard of is at most one more edit, and of any other
    command comes at most one more change. -/
theorem Steady.obey_unrest (h : Steady d.editor) (now : Nat)
    (c : EditorCommand) :
    (d.obey now c).editor.surface.weight = d.editor.surface.weight
      ∧ unrest (d.obey now c).editor
        < unrest d.editor + cost d.editor.surface.weight c := by
  by_cases hc : c = .contentChanged
  · subst hc
    -- a change that is heard of leaves an edit at most, and no write
    have hsurface := d.contentChanged_surface now
    have hdirty := (d.contentChanged now).editor.dirty.toNat_le
    show (d.contentChanged now).editor.surface.weight = _
      ∧ 2 * (d.contentChanged now).editor.surface.heard
          + (d.contentChanged now).editor.dirty.toNat
        < 2 * d.editor.surface.heard + d.editor.dirty.toNat + 2
    rw [hsurface]
    exact ⟨rfl, by omega⟩
  · -- any other command writes at most once, and leaves no edit
    have hcost : cost d.editor.surface.weight c
        = 2 * d.editor.surface.weight + 1 := by
      cases c <;> first | rfl | exact absurd rfl hc
    rw [hcost]
    obtain heq | ⟨hrest, hlouder⟩ := h.obey_cases now hc
    · rw [heq]
      exact ⟨rfl, Nat.lt_add_of_pos_right (Nat.succ_pos _)⟩
    · have hheard := hlouder.heard
      refine ⟨hlouder.weight, ?_⟩
      unfold unrest
      rw [hrest.dirty, Bool.toNat_false]
      omega

end NodeFlow.Desk
