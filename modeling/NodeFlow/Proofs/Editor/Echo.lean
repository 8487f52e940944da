import NodeFlow.Proofs.Editor.Commands

/-! # Echoes

    When the editor writes to the surface it expects to hear of a change, and
    takes the next change that it hears of for that one.  It remembers only
    whether it expects a change, not how many, and forgets about it when
    another node is selected.  A user who edits nothing is therefore left
    alone exactly in those runs in which every change is heard of while it is
    expected (`undisturbed_iff_paced`).  Two writes in a row, or a write and
    another selection, before the first change is heard of are enough for an
    edit to be seen that nobody has made (`not_always_undisturbed`). -/

namespace NodeFlow.Desk

variable {d : Desk} {e e' : Editor} {c : Command} {expected : Bool}

/-- Carry out commands one after the other. -/
def run (d : Desk) (cs : List Command) : Desk := cs.foldl perform d

/-! ## What can be seen of a run -/

/-- Whether the editor writes to the surface. -/
def writes (d : Desk) (c : Command) : Bool :=
  (d.perform c).editor.surface.writes != d.editor.surface.writes

/-- Whether the editor hears of a change of the surface. -/
def hears (d : Desk) : Command → Bool
  | .hear _ => d.editor.surface.heard != 0
  | _ => false

/-- Whether another selection is asked for. -/
def reselects (d : Desk) : Command → Bool
  | .select id => id != d.editor.selection
  | _ => false

/-- Whether a change is expected after a command: the surface has been
    written since a change was last heard of and another selection was last
    asked for. -/
def expects (d : Desk) (expected : Bool) (c : Command) : Bool :=
  d.writes c || (expected && !(d.hears c || d.reselects c))

/-- Whether every change that is heard of while a node is selected is
    expected. -/
def Paced (expected : Bool) (d : Desk) : List Command → Prop
  | [] => True
  | c :: rest =>
      (d.hears c = true → d.editor.selection.isSome = true → expected = true)
        ∧ Paced (d.expects expected c) (d.perform c) rest

instance decidablePaced (expected : Bool) (d : Desk) :
    (cs : List Command) → Decidable (Paced expected d cs)
  | [] => isTrue trivial
  | c :: rest =>
      have := decidablePaced (d.expects expected c) (d.perform c) rest
      inferInstanceAs (Decidable (_ ∧ _))

/-- A new editor on a surface that reports every change. -/
structure Fresh (e : Editor) : Prop where
  /-- There is no edit. -/
  dirty : e.dirty = false
  /-- No change is expected. -/
  rendering : e.rendering = false
  /-- The selection is not changing. -/
  switching : e.switching = false
  /-- The timer is not armed. -/
  deadline : e.timer.deadline = none
  /-- Nothing has been saved. -/
  commits : e.counts.commits = 0
  /-- Nothing has been refused. -/
  rejections : e.counts.rejections = 0
  /-- Every change is reported once. -/
  weight : e.surface.weight = 1
  /-- None is unheard of. -/
  heard : e.surface.heard = 0

/-- The editor that a program starts with is a new one. -/
theorem fresh_ofConfig (c : EditorConfig) : Fresh (Editor.ofConfig c) :=
  ⟨rfl, rfl, rfl, rfl, rfl, rfl, rfl, rfl⟩

/-- Nothing has come of a run that began at a desk: no edit is seen, none has
    been saved or refused, and the workbench is as it was. -/
structure Undisturbed (d d' : Desk) : Prop where
  /-- There is no edit. -/
  dirty : d'.editor.dirty = false
  /-- None has been saved. -/
  commits : d'.editor.counts.commits = 0
  /-- None has been refused. -/
  rejections : d'.editor.counts.rejections = 0
  /-- The workbench is as it was. -/
  bench : d'.bench = d.bench

/-! ## Showing -/

/-- What showing a node does: the editor expects a change from then on if it
    writes to the surface, and does so as before if not. -/
structure Shown (e e' : Editor) : Prop where
  /-- An edit is neither made nor forgotten. -/
  dirty : e'.dirty = e.dirty
  /-- The timer runs on. -/
  timer : e'.timer = e.timer
  /-- The selection changes or not. -/
  switching : e'.switching = e.switching
  /-- Nothing is saved. -/
  commits : e'.counts.commits = e.counts.commits
  /-- Nothing is refused. -/
  rejections : e'.counts.rejections = e.counts.rejections
  /-- A write is expected to be heard of. -/
  guard : e'.rendering
    = (e'.surface.writes != e.surface.writes || e.rendering)

/-- A text that is put on the surface is expected to be heard of. -/
theorem put_shown (e : Editor) (text language : String) :
    Shown e (put e text language) := by
  unfold put putText
  by_cases h : e.surface.text = text
  · rw [if_pos h]
    exact ⟨rfl, rfl, rfl, rfl, rfl, by simp [Surface.setLanguage]⟩
  · rw [if_neg h]
    exact ⟨rfl, rfl, rfl, rfl, rfl, by
      simp [Surface.setLanguage, Surface.setText, Surface.changed]⟩

/-- Showing a node writes to the surface at most once and makes no edit. -/
theorem render_shown (d : Desk) : Shown d.editor d.render.editor := by
  unfold render
  split
  · exact ⟨rfl, rfl, rfl, rfl, rfl, by simp⟩
  · rename_i r _
    have h := put_shown d.editor (r.viewText d.editor.mode)
      (r.viewLanguage d.editor.mode)
    exact ⟨h.dirty, h.timer, h.switching, h.commits, h.rejections, h.guard⟩

/-! ## One command -/

/-- What is kept up as long as no edit is seen. -/
structure Calm (expected : Bool) (e : Editor) : Prop where
  /-- There is no edit. -/
  dirty : e.dirty = false
  /-- The timer is not armed. -/
  deadline : e.timer.deadline = none
  /-- The selection is not changing. -/
  switching : e.switching = false
  /-- Nothing has been saved. -/
  commits : e.counts.commits = 0
  /-- Nothing has been refused. -/
  rejections : e.counts.rejections = 0
  /-- The editor remembers whether a change is expected. -/
  rendering : e.rendering = expected

/-- A new editor is calm and expects no change. -/
theorem Fresh.calm (h : Fresh e) : Calm false e :=
  ⟨h.dirty, h.deadline, h.switching, h.commits, h.rejections, h.rendering⟩

/-- What only shows something keeps the editor calm, and a write is expected
    to be heard of. -/
theorem Calm.shown (h : Calm expected e) (hs : Shown e e') :
    Calm (e'.surface.writes != e.surface.writes || expected) e' :=
  ⟨hs.dirty.trans h.dirty, by rw [hs.timer, h.deadline],
    hs.switching.trans h.switching, hs.commits.trans h.commits,
    hs.rejections.trans h.rejections, by rw [hs.guard, h.rendering]⟩

/-- A timer without a deadline is as it was once it is cancelled. -/
theorem cancel_eq {t : Debounce} (h : t.deadline = none) : t.cancel = t := by
  cases t
  cases h
  rfl

/-- Without an edit and a timer there is nothing to save. -/
theorem flush_of_clean (hdirty : d.editor.dirty = false)
    (hdeadline : d.editor.timer.deadline = none) :
    d.flush = (.nothing, d) := by
  have hcancel : d.edit (fun e => { e with timer := e.timer.cancel }) = d := by
    show ({ d with editor := { d.editor with
      timer := d.editor.timer.cancel } } : Desk) = d
    rw [cancel_eq hdeadline]
  unfold flush
  simp only [hcancel, hdirty, Bool.false_eq_true, if_false]

/-- A calm editor has nothing to save. -/
theorem Calm.flush_eq (h : Calm expected d.editor) : d.flush.2 = d := by
  rw [flush_of_clean h.dirty h.deadline]

/-- The timer of a calm editor is not due at any time. -/
theorem Calm.poll_eq (h : Calm expected d.editor) (now : Nat) :
    (d.poll now).2 = d := by
  unfold poll Debounce.isDue
  simp only [h.deadline, Bool.false_eq_true, if_false]

/-- A command that leaves the desk alone. -/
theorem Calm.perform_same (h : Calm expected d.editor)
    (heq : d.perform c = d) (hhears : d.hears c = false)
    (hreselects : d.reselects c = false) :
    Calm (d.expects expected c) (d.perform c).editor := by
  have hexpects : d.expects expected c = expected := by
    unfold expects writes
    rw [heq, hhears, hreselects]
    simp
  rw [heq, hexpects]
  exact h

/-- A desk about to show another node, or none: no change is expected. -/
def turned (d : Desk) (target : Option String) : Desk :=
  d.edit (fun e =>
    { e with
      switching := true
      timer := e.timer.cancel
      selection := target
      rendering := false
      dirty := false })

/-- Another selection is shown by an editor that expects no change. -/
theorem Calm.select_eq (h : Calm expected d.editor) {id : Option String}
    (hid : id ≠ d.editor.selection) :
    ∃ (target : Option String) (d' : Desk),
      Shown (d.turned target).editor d'.editor ∧ d'.bench = d.bench
        ∧ d.select id
          = d'.edit
              (fun e => { e with switching := false, state := .idle }) := by
  unfold Desk.select
  rw [if_neg hid]
  simp only [h.flush_eq]
  refine ⟨id.filter (fun i => (d.liveRecord? i).isSome), _, ?_, ?_, rfl⟩
  · split
    · exact render_shown (d.turned _)
    · exact put_shown (d.turned _).editor "" "plaintext"
  · split
    · exact render_bench _
    · rfl

/-- Selecting keeps the editor calm and the workbench as it is. -/
theorem Calm.select (h : Calm expected d.editor) (id : Option String) :
    Calm (d.expects expected (.select id)) (d.select id).editor
      ∧ (d.select id).bench = d.bench := by
  by_cases hid : id = d.editor.selection
  · have heq : d.select id = d := by
      unfold Desk.select
      rw [if_pos hid]
    exact ⟨h.perform_same (c := .select id) heq rfl
      (by simp [reselects, hid]), by rw [heq]⟩
  · obtain ⟨target, d', hshown, hbench, heq⟩ := h.select_eq hid
    have hexpects : d.expects expected (.select id)
        = (d'.editor.surface.writes != d.editor.surface.writes || false) := by
      unfold expects writes
      show ((d.select id).editor.surface.writes != _ || _) = _
      rw [heq]
      simp [reselects, hid, edit]
    have hdeadline : d'.editor.timer.deadline = none := by
      rw [hshown.timer]
      rfl
    rw [hexpects, heq]
    exact ⟨⟨hshown.dirty, hdeadline, rfl, hshown.commits.trans h.commits,
      hshown.rejections.trans h.rejections, hshown.guard⟩, hbench⟩

/-- Showing the node again keeps the editor calm. -/
theorem Calm.render (h : Calm expected d.editor) :
    Calm (d.expects expected .render) d.render.editor := by
  have hexpects : d.expects expected .render
      = (d.render.editor.surface.writes != d.editor.surface.writes
          || expected) := by
    unfold expects
    show (d.render.editor.surface.writes != _ || (expected && !false)) = _
    rw [Bool.not_false, Bool.and_true]
  rw [hexpects]
  exact h.shown d.render_shown

/-- Showing another side keeps the editor calm and the workbench as it is. -/
theorem Calm.switchMode (h : Calm expected d.editor) (mode : Mode) :
    Calm (d.expects expected (.switchMode mode)) (d.switchMode mode).editor
      ∧ (d.switchMode mode).bench = d.bench := by
  by_cases hmode : mode = d.editor.mode
  · have heq : d.switchMode mode = d := by
      unfold Desk.switchMode
      rw [if_pos hmode]
    exact ⟨h.perform_same (c := .switchMode mode) heq rfl rfl, by rw [heq]⟩
  · -- a calm editor has nothing to save before it shows another side
    have heq : d.switchMode mode
        = (d.edit (fun e => { e with mode := mode })).render := by
      unfold Desk.switchMode
      rw [if_neg hmode, h.flush_eq]
    have hother : Calm expected
        (d.edit (fun e => { e with mode := mode })).editor :=
      ⟨h.dirty, h.deadline, h.switching, h.commits, h.rejections, h.rendering⟩
    have hcalm := hother.render
    -- the mode is nothing that the surface hears of
    have hexpects : d.expects expected (.switchMode mode)
        = (d.edit (fun e => { e with mode := mode })).expects expected
            .render := by
      unfold expects writes
      show ((d.switchMode mode).editor.surface.writes != _ || _) = _
      rw [heq]
      rfl
    rw [hexpects, heq]
    exact ⟨hcalm, render_bench _⟩

/-- An unexpected change that is heard of while a node is selected is taken
    for an edit. -/
theorem dirty_of_unexpected (h : Calm false d.editor)
    (hhears : d.hears c = true) (hsel : d.editor.selection.isSome = true) :
    (d.perform c).editor.dirty = true := by
  cases c with
  | hear now =>
      have hheard : d.editor.surface.heard ≠ 0 := by simpa [hears] using hhears
      have hsome : d.editor.selection.isNone = false := by
        rw [← Option.not_isSome, hsel]
        rfl
      simp only [perform, hheard, if_false, contentChanged, edit, takeHeard,
        hsome, h.rendering, Bool.false_eq_true]
  | _ => cases hhears

/-- To hear of a change writes nothing to the surface. -/
theorem contentChanged_surface (d : Desk) (now : Nat) :
    (d.contentChanged now).editor.surface = d.editor.surface := by
  unfold contentChanged edit
  simp only
  split
  · rfl
  · split <;> rfl

/-- To hear of a change keeps the editor calm if the change is expected. -/
theorem Calm.hear (h : Calm expected d.editor) (now : Nat)
    (hpaced : d.hears (.hear now) = true → d.editor.selection.isSome = true →
      expected = true) :
    Calm (d.expects expected (.hear now)) (d.perform (.hear now)).editor
      ∧ (d.perform (.hear now)).bench = d.bench := by
  by_cases hheard : d.editor.surface.heard = 0
  · have heq : d.perform (.hear now) = d := by
      simp only [perform, hheard, if_true]
    exact ⟨h.perform_same heq (by simp [hears, hheard]) rfl, by rw [heq]⟩
  · have hhears : d.hears (.hear now) = true := by simp [hears, hheard]
    have heq : d.perform (.hear now)
        = (d.edit takeHeard).contentChanged now := by
      simp only [perform, hheard, if_false]
    have hexpects : d.expects expected (.hear now) = false := by
      unfold expects writes
      rw [hhears, heq, contentChanged_surface]
      simp [edit, takeHeard]
    rw [hexpects, heq]
    refine ⟨?_, rfl⟩
    -- without a selection the change is dropped; else it must be expected
    cases hsel : d.editor.selection with
    | none =>
        simp only [contentChanged, edit, takeHeard, hsel, Option.isNone_none,
          if_true]
        exact ⟨h.dirty, h.deadline, h.switching, h.commits, h.rejections, rfl⟩
    | some id =>
        have hexp := hpaced hhears (by rw [hsel]; rfl)
        simp only [contentChanged, edit, takeHeard, hsel, Option.isNone_some,
          Bool.false_eq_true, if_false, h.rendering, hexp, if_true]
        exact ⟨h.dirty, h.deadline, h.switching, h.commits, h.rejections, rfl⟩

/-- A command that hears of no unexpected change leaves the user alone. -/
theorem Calm.perform (h : Calm expected d.editor) (c : Command)
    (hpaced : d.hears c = true → d.editor.selection.isSome = true →
      expected = true) :
    Calm (d.expects expected c) (d.perform c).editor
      ∧ (d.perform c).bench = d.bench := by
  cases c with
  | select id => exact h.select id
  | switchMode mode => exact h.switchMode mode
  | render => exact ⟨h.render, d.render_bench⟩
  | flush => exact ⟨h.perform_same h.flush_eq rfl rfl, by
      show d.flush.2.bench = d.bench
      rw [h.flush_eq]⟩
  | poll now => exact ⟨h.perform_same (h.poll_eq now) rfl rfl, by
      show (d.poll now).2.bench = d.bench
      rw [h.poll_eq now]⟩
  | hear now => exact h.hear now hpaced

/-! ## Runs -/

/-- Whether nothing has come of a run at any time. -/
def LeftAlone (d : Desk) (cs : List Command) : Prop :=
  ∀ n, Undisturbed d (d.run (cs.take n))

/-- While an editor is calm nothing has come of the run. -/
theorem Calm.undisturbed {d' : Desk} (h : Calm expected d'.editor)
    (hbench : d'.bench = d.bench) : Undisturbed d d' :=
  ⟨h.dirty, h.commits, h.rejections, hbench⟩

/-- After a command that leaves the workbench alone it is the rest of the run
    that counts. -/
theorem leftAlone_cons (h : Calm expected d.editor)
    (hbench : (d.perform c).bench = d.bench) (rest : List Command) :
    d.LeftAlone (c :: rest) ↔ (d.perform c).LeftAlone rest := by
  constructor
  · intro hall n
    have hn := hall (n + 1)
    exact ⟨hn.dirty, hn.commits, hn.rejections, hn.bench.trans hbench.symm⟩
  · intro hall n
    cases n with
    | zero => exact h.undisturbed rfl
    | succ n =>
        have hn := hall n
        exact ⟨hn.dirty, hn.commits, hn.rejections, hn.bench.trans hbench⟩

/-- By induction over the commands: nothing comes of a run exactly if it is
    paced. -/
theorem Calm.leftAlone_iff (h : Calm expected d.editor) (cs : List Command) :
    d.LeftAlone cs ↔ Paced expected d cs := by
  induction cs generalizing d expected with
  | nil =>
      refine iff_of_true (fun n => ?_) trivial
      rw [List.take_nil]
      exact h.undisturbed rfl
  | cons c rest ih =>
      -- a change that is not expected already shows after this command
      by_cases hpaced : d.hears c = true →
          d.editor.selection.isSome = true → expected = true
      · obtain ⟨hcalm, hbench⟩ := h.perform c hpaced
        rw [leftAlone_cons h hbench, ih hcalm, Paced]
        exact ⟨fun hrest => ⟨hpaced, hrest⟩, fun hrest => hrest.2⟩
      · refine iff_of_false (fun hall => hpaced ?_) (fun hp => hpaced hp.1)
        intro hhears hsel
        cases expected with
        | true => rfl
        | false =>
            have hdirty := (hall 1).dirty
            rw [show d.run ((c :: rest).take 1) = d.perform c from rfl,
              dirty_of_unexpected h hhears hsel] at hdirty
            cases hdirty

/-- A user who edits nothing is left alone in exactly those runs of a new
    editor in which every change is heard of while it is expected. -/
theorem undisturbed_iff_paced (h : Fresh d.editor) (cs : List Command) :
    d.LeftAlone cs ↔ Paced false d cs :=
  h.calm.leftAlone_iff cs

/-- A new editor beside a workbench with one node. -/
def beginning : Desk :=
  { bench :=
      ((⟨{}, { templates := Table.empty.insert "math/sum" Template.sum }⟩ :
        Workbench).addNode "math/sum").2
    editor := Editor.ofConfig {}
    clock := default }

/-- Each change is heard of before the next write. -/
theorem undisturbed_in_turn :
    Fresh beginning.editor
      ∧ beginning.LeftAlone
          [.select (some "1"), .hear 0, .switchMode .code, .hear 0] :=
  ⟨fresh_ofConfig {},
    (undisturbed_iff_paced (fresh_ofConfig {}) _).mpr (by decide)⟩

/-- Two writes before the first change is heard of. -/
theorem not_always_undisturbed :
    ¬ ∀ d : Desk, Fresh d.editor → ∀ cs, d.LeftAlone cs := by
  intro hall
  have hdirty := (hall beginning (fresh_ofConfig {})
    [.select (some "1"), .switchMode .code, .hear 0, .hear 0] 4).dirty
  exact absurd hdirty (by decide)

end NodeFlow.Desk
