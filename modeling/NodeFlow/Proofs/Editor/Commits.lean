import Mathlib.Data.List.Induction
import NodeFlow.Proofs.Editor.Steady
import NodeFlow.Proofs.Editor.Written

/-! # Where edits are saved

    An editor is asked and told things in any order, and in between anything
    may happen to the workbench and the surface.  An edit is still saved to
    the node and side on which it was made: whenever another node or side is
    asked for, the edit is saved before.  Only an edit that is accepted writes
    anything, and only a text that cannot be read is reported to the user
    (`commits_where_edited`). -/

namespace NodeFlow

/-- What an editor is asked or told. -/
inductive Prompt where
  /-- A command, or the news of a change. -/
  | command (now : Nat) (c : EditorCommand)
  /-- The timer is looked at. -/
  | poll (now : Nat)

/-- What happens around an editor. -/
inductive Happening where
  /-- It is asked or told something. -/
  | prompt (p : Prompt)
  /-- Workbench, surface and clock change in any way. -/
  | disturbed (w : Workbench) (s : Surface) (clock : Timestamp)

/-- What the user is told about an attempt to save. -/
def CommitOutcome.complaints : CommitOutcome → List String
  | .rejected (.unreadable e) => [(SyncError.unreadable e).message]
  | _ => []

namespace Desk

/-- The desk after the editor was asked or told something. -/
def prompted (d : Desk) : Prompt → Desk
  | .command now c => d.obey now c
  | .poll now => (d.poll now).2

/-- What the attempt to save comes to that is made then. -/
def attemptOf (d : Desk) : Prompt → CommitOutcome
  | .command _ (.select id) =>
      if id = d.editor.selection then .nothing else d.flush.1
  | .command _ (.switchMode mode) =>
      if mode = d.editor.mode then .nothing else d.flush.1
  | .command _ .contentChanged => .nothing
  | .command _ .flush | .command _ .shutdown => d.flush.1
  | .poll now => (d.poll now).1

/-- The desk after something has happened. -/
def happen (d : Desk) : Happening → Desk
  | .prompt p => d.prompted p
  | .disturbed w s clock => d.disturbed w s clock

/-- The desk after one thing after the other has happened. -/
def happenAll (d : Desk) (hs : List Happening) : Desk := hs.foldl happen d

/-- A desk with a new editor. -/
def opened (config : EditorConfig) (w : Workbench) (s : Surface)
    (clock : Timestamp) (notes : List String) : Desk :=
  { bench := w
    editor := { Editor.ofConfig config with surface := s }
    clock := clock
    notes := notes }

/-- Whether the edit that is not saved yet was made on this side of this node:
    there was none before one of the changes that were heard of, and since
    then there has been one while node and side stayed the same. -/
def EditedOn (d : Desk) (hs : List Happening) (id : String) (mode : Mode) :
    Prop :=
  ∃ earlier now later,
    hs = earlier ++ .prompt (.command now .contentChanged) :: later
      ∧ (d.happenAll earlier).editor.dirty = false
      ∧ (d.happenAll earlier).editor.selection = some id
      ∧ (d.happenAll earlier).editor.mode = mode
      ∧ ∀ since, since <+: later →
          let d' := d.happenAll
            (earlier ++ .prompt (.command now .contentChanged) :: since)
          d'.editor.dirty = true
            ∧ d'.editor.selection = some id
            ∧ d'.editor.mode = mode

variable {d : Desk} {hs : List Happening} {id : String} {mode : Mode}

/-! ## Edits -/

theorem happenAll_append (d : Desk) (hs : List Happening) (h : Happening) :
    d.happenAll (hs ++ [h]) = (d.happenAll hs).happen h :=
  List.foldl_append.trans rfl

/-- Hearing of a change leaves node and side as they are. -/
theorem contentChanged_shown (d : Desk) (now : Nat) :
    (d.contentChanged now).editor.selection = d.editor.selection
      ∧ (d.contentChanged now).editor.mode = d.editor.mode := by
  unfold contentChanged edit
  simp only
  split
  · exact ⟨rfl, rfl⟩
  · split <;> exact ⟨rfl, rfl⟩

/-- Whatever happens, the editor is attended. -/
theorem attended_happenAll (h : Attended d) (hs : List Happening) :
    Attended (d.happenAll hs) := by
  induction hs generalizing d with
  | nil => exact h
  | cons happening rest ih =>
      refine ih ?_
      cases happening with
      | prompt p =>
          cases p with
          | command now c => exact h.obey now c
          | poll now => exact h.poll now
      | disturbed w s clock => exact h.disturbed w s clock

/-- There is an edit that there has not been only after a change was heard
    of. -/
theorem Steady.dirty_happen (h : Steady d.editor) (happening : Happening)
    (hdirty : (d.happen happening).editor.dirty = true) :
    (d.happen happening).editor.selection = d.editor.selection
      ∧ (d.happen happening).editor.mode = d.editor.mode
      ∧ (d.editor.dirty = true
        ∨ ∃ now, happening = .prompt (.command now .contentChanged)) := by
  cases happening with
  | disturbed w s clock => exact ⟨rfl, rfl, Or.inl hdirty⟩
  | prompt p =>
      cases p with
      | poll now =>
          by_cases hdue : d.editor.timer.isDue now = true
          · -- after a save there is no edit
            have hrest := (h.poll_due hdue).rest.dirty
            exact absurd hdirty (by rw [happen, prompted, hrest]; decide)
          · have heq : d.happen (.prompt (.poll now)) = d := by
              rw [happen, prompted, poll_not_due hdue]
            rw [heq] at hdirty ⊢
            exact ⟨rfl, rfl, Or.inl hdirty⟩
      | command now c =>
          by_cases hc : c = .contentChanged
          · subst hc
            obtain ⟨hsel, hmode⟩ := d.contentChanged_shown now
            exact ⟨hsel, hmode, Or.inr ⟨now, rfl⟩⟩
          · rcases h.obey_cases now hc with heq | ⟨hrest, -⟩
            · -- a command either changes nothing or leaves no edit
              have heq' : d.happen (.prompt (.command now c)) = d := heq
              rw [heq'] at hdirty ⊢
              exact ⟨rfl, rfl, Or.inl hdirty⟩
            · exact absurd hdirty (by
                rw [happen, prompted, hrest.dirty]; decide)

/-- An edit that is not saved was made on the node and side that are shown. -/
theorem editedOn_of_dirty (h : Attended d) (hclean : d.editor.dirty = false)
    (hs : List Happening)
    (hdirty : (d.happenAll hs).editor.dirty = true) :
    ∃ id, (d.happenAll hs).editor.selection = some id
      ∧ d.EditedOn hs id (d.happenAll hs).editor.mode := by
  -- from the last happening: what is shown after it is what was shown before
  induction hs using List.reverseRecOn with
  | nil =>
      change d.editor.dirty = true at hdirty
      rw [hclean] at hdirty
      cases hdirty
  | append_singleton hs happening ih =>
      rw [happenAll_append] at hdirty ⊢
      have hsteady := (attended_happenAll h hs).steady
      obtain ⟨hsel, hmode, hbefore⟩ :=
        hsteady.dirty_happen happening hdirty
      cases hwas : (d.happenAll hs).editor.dirty with
      | true =>
          -- the edit was there before, on the same side of the same node
          obtain ⟨id, hid, earlier, now, later, rfl, hfirst, hsel', hmode',
            hsince⟩ := ih hwas
          refine ⟨id, hsel.trans hid, earlier, now, later ++ [happening], ?_,
            hfirst, hsel', hmode'.trans hmode.symm, fun since hle => ?_⟩
          · rw [List.append_assoc]
            rfl
          · rcases List.prefix_concat_iff.mp hle with rfl | hle
            · rw [← List.cons_append, ← List.append_assoc, happenAll_append]
              exact ⟨hdirty, hsel.trans hid, rfl⟩
            · obtain ⟨hd, hs, hm⟩ := hsince since hle
              exact ⟨hd, hs, hm.trans hmode.symm⟩
      | false =>
          obtain hdirty' | ⟨now, rfl⟩ := hbefore
          · rw [hwas] at hdirty'
            cases hdirty'
          · -- this is the change that was heard of
            have hafter := (hsteady.contentChanged now).selected hdirty
            obtain ⟨id, hid⟩ := Option.isSome_iff_exists.mp hafter
            refine ⟨id, hid, hs, now, [], rfl, hwas, hsel.symm.trans hid,
              hmode.symm, fun since hle => ?_⟩
            rw [List.prefix_nil.mp hle, happenAll_append]
            exact ⟨hdirty, hid, rfl⟩

/-! ## Attempts -/

/-- What an attempt to save does. -/
structure Attempted (d : Desk) (r : CommitOutcome × Desk) : Prop where
  /-- If there is no edit nothing is attempted.  Otherwise the text is saved
      to the node and side that are shown. -/
  saved : r.1 = .nothing ∧ r.2.bench = d.bench
    ∨ d.editor.dirty = true ∧ ∃ id, d.editor.selection = some id
      ∧ (r.1, r.2.bench)
        = d.bench.save d.clock id d.editor.mode d.editor.surface.text
  /-- The user is told why a text cannot be read. -/
  notes : r.2.notes = d.notes ++ r.1.complaints

theorem store_notes (d : Desk) (id text : String) :
    (d.store id text).2.notes = d.notes := by
  unfold store
  split
  · rfl
  · split
    · split <;> rfl
    · rfl
    · rfl

/-- The user is told what is wrong with a text, and nothing else. -/
theorem attempt_notes (d : Desk) (id : String) :
    (d.attempt id).2.notes = d.notes ++ (d.attempt id).1.complaints := by
  have hstore := d.store_notes id d.editor.surface.text
  unfold attempt
  simp only
  split
  · exact (List.append_nil _).symm
  · split
    · rename_i heq
      rw [heq] at hstore
      exact hstore.trans (List.append_nil _).symm
    · rename_i reason _ heq
      rw [heq] at hstore
      cases reason with
      | unreadable e => exact congrArg (· ++ _) hstore
      | unknownNode i => exact hstore.trans (List.append_nil _).symm

theorem commit_notes (d : Desk) :
    d.commit.2.notes = d.notes ++ d.commit.1.complaints := by
  unfold commit
  split
  · exact (List.append_nil _).symm
  · split
    · exact (List.append_nil _).symm
    · exact attempt_notes _ _

/-- An attempt of which nothing comes. -/
theorem attempted_nothing (d : Desk) : Attempted d (.nothing, d) :=
  ⟨Or.inl ⟨rfl, rfl⟩, (List.append_nil _).symm⟩

theorem SavedNow.attempted {r : CommitOutcome × Desk} (h : SavedNow d r)
    (hdirty : d.editor.dirty = true)
    (hnotes : r.2.notes = d.notes ++ r.1.complaints) : Attempted d r := by
  obtain ⟨id, hid, houtcome, hbench⟩ := h.saved
  exact ⟨Or.inr ⟨hdirty, id, hid, Prod.ext houtcome hbench⟩, hnotes⟩

/-- To save at once is an attempt if there is an edit. -/
theorem Steady.attempted_flush (h : Steady d.editor) :
    Attempted d d.flush := by
  cases hdirty : d.editor.dirty with
  | true =>
      refine (h.flush_dirty hdirty).attempted hdirty ?_
      unfold Desk.flush
      simp only [edit, hdirty, if_true]
      exact commit_notes _
  | false =>
      have hrest := h.atRest hdirty
      rw [flush_of_clean hrest.dirty hrest.deadline]
      exact d.attempted_nothing

/-- To ask the timer is an attempt if it is due. -/
theorem Steady.attempted_poll (h : Steady d.editor) (now : Nat) :
    Attempted d (d.poll now) := by
  by_cases hdue : d.editor.timer.isDue now = true
  · -- the timer runs only while there is an edit
    have hdirty : d.editor.dirty = true := by
      rw [← Bool.not_eq_false, ← h.deadline_eq_none_iff]
      intro hnone
      simp [Debounce.isDue, hnone] at hdue
    refine (h.poll_due hdue).attempted hdirty ?_
    unfold Desk.poll
    rw [if_pos hdue]
    exact commit_notes _
  · rw [poll_not_due hdue]
    exact d.attempted_nothing

/-- Showing something else neither writes nor tells anything. -/
theorem render_notes (d : Desk) : d.render.notes = d.notes := by
  unfold render
  split <;> rfl

theorem shift_untold (d : Desk) (id : Option String) :
    (d.shift id).bench = d.bench ∧ (d.shift id).notes = d.notes := by
  obtain ⟨d', hd', heq⟩ := d.redrawn_shift id
  refine ⟨?_, ?_⟩
  · rw [heq]
    exact hd'.bench
  · unfold shift
    simp only
    split
    · exact render_notes _
    · rfl

theorem Attempted.congr {r : CommitOutcome × Desk} {d' : Desk}
    (h : Attempted d r) (hbench : d'.bench = r.2.bench)
    (hnotes : d'.notes = r.2.notes) : Attempted d (r.1, d') :=
  ⟨hbench ▸ h.saved, hnotes.trans h.notes⟩

/-- Whatever the editor is asked or told, at most one attempt to save is made,
    before anything else is shown. -/
theorem Steady.attempted_prompted (h : Steady d.editor) (p : Prompt) :
    Attempted d (d.attemptOf p, d.prompted p) := by
  have hflush := h.attempted_flush
  cases p with
  | poll now => exact h.attempted_poll now
  | command now c =>
      cases c with
      | contentChanged => exact ⟨Or.inl ⟨rfl, rfl⟩, (List.append_nil _).symm⟩
      | flush => exact hflush
      | shutdown => exact hflush
      | select id =>
          show Attempted d (ite _ _ _, d.select id)
          -- selecting the same node again saves nothing
          by_cases hid : id = d.editor.selection
          · rw [if_pos hid, select, if_pos hid]
            exact d.attempted_nothing
          · obtain ⟨hbench, hnotes⟩ := d.flush.2.shift_untold id
            rw [if_neg hid, select_of_ne hid]
            exact hflush.congr hbench hnotes
      | switchMode mode =>
          show Attempted d (ite _ _ _, d.switchMode mode)
          -- neither does showing the same side again
          by_cases hmode : mode = d.editor.mode
          · rw [if_pos hmode, switchMode, if_pos hmode]
            exact d.attempted_nothing
          · rw [if_neg hmode, switchMode, if_neg hmode]
            exact hflush.congr (render_bench _) (render_notes _)

/-! ## Every run -/

/-- What is said of the attempt to save that is made when an editor is asked or
    told something, if `editedOn` tells where the edit was made. -/
structure Faithful (editedOn : String → Mode → Prop) (d : Desk) (p : Prompt) :
    Prop where
  /-- An edit is saved to the node and side on which it was made. -/
  place : d.attemptOf p ≠ .nothing →
    ∃ id, d.editor.selection = some id ∧ editedOn id d.editor.mode
  /-- What is not accepted is not written. -/
  kept : d.attemptOf p ≠ .committed → (d.prompted p).bench = d.bench
  /-- What is accepted is written to this side of this node only. -/
  written : d.attemptOf p = .committed →
    ∃ id, d.editor.selection = some id
      ∧ d.bench.Wrote d.clock id d.editor.surface.text d.editor.mode
          (d.prompted p).bench
  /-- The user is told why a text cannot be read, and nothing else. -/
  notes : (d.prompted p).notes = d.notes ++ (d.attemptOf p).complaints

/-- Whatever a new editor has been asked and told, in any order and whatever
    else has happened, an edit is saved where it was made or not at all. -/
theorem commits_where_edited (config : EditorConfig) (w : Workbench)
    (s : Surface) (clock : Timestamp) (notes : List String)
    (hs : List Happening) (p : Prompt) :
    let d₀ := opened config w s clock notes
    Faithful (d₀.EditedOn hs) (d₀.happenAll hs) p := by
  intro d₀
  have hnew : Attended d₀ := .new config w s clock notes
  have hsteady := (attended_happenAll hnew hs).steady
  have hattempt := hsteady.attempted_prompted p
  rcases hattempt.saved with ⟨hnone, hbench⟩ | ⟨hdirty, id, hid, hsave⟩
  · exact
      { place := fun h => absurd hnone h
        kept := fun _ => hbench
        written := fun h => nomatch hnone.symm.trans h
        notes := hattempt.notes }
  · obtain ⟨houtcome, hbench⟩ := Prod.mk.inj hsave
    exact
      { place := fun _ => editedOn_of_dirty hnew rfl hs hdirty
        kept := fun h =>
          hbench.trans (Workbench.save_of_ne_committed (houtcome ▸ h))
        written := fun h =>
          ⟨id, hid, hbench ▸ Workbench.wrote_of_save (houtcome.symm.trans h)⟩
        notes := hattempt.notes }

/-- A title that is edited and saved marks its node, which was not marked
    before. -/
theorem not_always_unmarked :
    ¬ ∀ (config : EditorConfig) (w : Workbench) (s : Surface)
        (clock : Timestamp) (notes : List String) (hs : List Happening)
        (p : Prompt),
        let d := (opened config w s clock notes).happenAll hs
        d.attemptOf p = .committed →
          (d.prompted p).bench.graph.dirty = d.bench.graph.dirty := by
  intro hall
  let w := (({} : Workbench).addNode "code/javascript").2
  have hmarked := hall {} w {} default []
    [.prompt (.command 0 (.select (some "1"))),
      .prompt (.command 0 .contentChanged),
      .disturbed w { text := "title: Sum" } default,
      .prompt (.command 0 .contentChanged)]
    (.command 0 .flush) (by decide +kernel)
  exact absurd hmarked (by decide +kernel)

end Desk
end NodeFlow
