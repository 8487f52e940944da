import NodeFlow.Proofs.Editor.Commits

/-! # Saving after a quiet period

    An editor saves an edit of its own accord once a quiet period has passed
    since the last change that it took for an edit.  Of a run it is noticed
    when a change is taken for an edit, and when the timer makes the editor
    save.  As long as time does not go back, every time that the timer makes
    it save there is an edit that it has not saved before, and edits that
    follow one another more closely than the quiet period are saved together,
    once, after the last of them (`saves_after_quiet`). -/

namespace NodeFlow

/-- What is noticed of an editor with a timer. -/
inductive Notice where
  /-- A change was taken for an edit. -/
  | edited (now : Nat)
  /-- The timer made the editor attempt to save. -/
  | saved (now : Nat)
  deriving DecidableEq, Repr

namespace Notice

/-- When something was noticed. -/
def time : Notice → Nat
  | .edited now | .saved now => now

/-- When an edit was noticed. -/
def edit? : Notice → Option Nat
  | .edited now => some now
  | .saved _ => none

/-- When an attempt to save was noticed. -/
def save? : Notice → Option Nat
  | .edited _ => none
  | .saved now => some now

/-- The times of the edits. -/
def edits (l : List Notice) : List Nat := l.filterMap edit?

/-- The times of the attempts to save. -/
def saves (l : List Notice) : List Nat := l.filterMap save?

/-- A burst of edits and what is noticed meanwhile and after it: it begins
    with an edit, and each edit follows the one before within the quiet
    period. -/
structure Burst (delay : Nat) (l : List Notice) : Prop where
  /-- An edit comes first. -/
  begins : ∃ now rest, l = .edited now :: rest
  /-- The edits follow one another closely. -/
  close : (edits l).IsChain (fun s t => t < s + delay)

/-- What may be noticed of a timer that is due at a time, or is not armed: an
    edit arms it anew, and it makes the editor save only if it is due, after
    which it is not armed. -/
def Timed (delay : Nat) : Option Nat → List Notice → Prop
  | _, [] => True
  | _, .edited now :: rest => Timed delay (some (now + delay)) rest
  | due, .saved now :: rest =>
      (∃ x, due = some x ∧ x ≤ now) ∧ Timed delay none rest

variable {delay s t : Nat} {due : Option Nat} {l m : List Notice}

/-! ## A timer -/

/-- A timer that is armed lets be noticed what one lets that is not. -/
theorem Timed.of_none (h : Timed delay none l) : Timed delay due l := by
  cases l with
  | nil => trivial
  | cons n rest =>
      cases n with
      | edited now => exact h
      | saved now =>
          obtain ⟨⟨x, hx, -⟩, -⟩ := h
          cases hx

/-- The beginning of a timed run is timed. -/
theorem Timed.of_append_left (h : Timed delay due (l ++ m)) :
    Timed delay due l := by
  induction l generalizing due with
  | nil => trivial
  | cons n rest ih =>
      cases n with
      | edited now => exact ih h
      | saved now => exact ⟨h.1, ih h.2⟩

/-- The end of a timed run is timed, from some deadline on. -/
theorem Timed.of_append_right (h : Timed delay due (l ++ m)) :
    ∃ later, Timed delay later m := by
  induction l generalizing due with
  | nil => exact ⟨due, h⟩
  | cons n rest ih =>
      cases n with
      | edited now => exact ih h
      | saved now => exact ih h.2

/-- Between two attempts to save there is an edit. -/
theorem Timed.between (h : Timed delay due (.saved s :: (l ++ .saved t :: m))) :
    ∃ now, .edited now ∈ l := by
  obtain ⟨-, hrest⟩ := h
  cases l with
  | nil =>
      obtain ⟨⟨x, hx, -⟩, -⟩ := hrest
      cases hx
  | cons n l =>
      cases n with
      | edited now => exact ⟨now, List.mem_cons_self⟩
      | saved now =>
          obtain ⟨⟨x, hx, -⟩, -⟩ := hrest
          cases hx

/-- After an edit there is at most one attempt to save before an edit follows
    that is not close, and that attempt comes once the quiet period has passed
    since each of the edits. -/
theorem Timed.burst (h : Timed delay due (.edited s :: l))
    (hasc : ((Notice.edited s :: l).map time).Pairwise (· ≤ ·))
    (hclose : (edits (.edited s :: l)).IsChain (fun s t => t < s + delay)) :
    (saves (.edited s :: l)).length ≤ 1
      ∧ ∀ t ∈ saves (.edited s :: l), ∀ r ∈ edits (.edited s :: l),
          r + delay ≤ t := by
  induction l generalizing s due with
  | nil => exact ⟨Nat.zero_le 1, fun t ht => nomatch ht⟩
  | cons n l ih =>
      obtain ⟨hle, hasc'⟩ := List.pairwise_cons.mp hasc
      cases n with
      | edited r =>
          -- the next edit begins a burst of its own, and is not earlier
          obtain ⟨-, hclose'⟩ := List.isChain_cons_cons.mp hclose
          have hnext : Timed delay (some (s + delay)) (.edited r :: l) := h
          obtain ⟨hone, hlate⟩ := ih hnext hasc' hclose'
          refine ⟨hone, fun t ht x hx => ?_⟩
          have hr : r + delay ≤ t := hlate t ht r List.mem_cons_self
          have hsr : s ≤ r := hle r List.mem_cons_self
          rcases List.mem_cons.mp hx with rfl | hx
          · omega
          · exact hlate t ht x hx
      | saved now =>
          obtain ⟨⟨x, hx, hnow⟩, hrest⟩ := h
          have hdue : s + delay ≤ now := by
            cases hx
            exact hnow
          cases l with
          | nil =>
              refine ⟨Nat.le_refl 1, fun t ht r hr => ?_⟩
              rw [List.mem_singleton.mp ht, List.mem_singleton.mp hr]
              exact hdue
          | cons n l =>
              cases n with
              | edited r =>
                  -- an edit after the attempt is not close to the one before
                  obtain ⟨hr, -⟩ := List.isChain_cons_cons.mp hclose
                  obtain ⟨hnr, -⟩ := List.pairwise_cons.mp hasc'
                  have hle' : now ≤ r := hnr r List.mem_cons_self
                  omega
              | saved r =>
                  obtain ⟨⟨y, hy, -⟩, -⟩ := hrest
                  cases hy

end Notice

/-- A timer is due from its deadline on. -/
theorem Debounce.isDue_iff {t : Debounce} {now : Nat} :
    t.isDue now = true ↔ ∃ x, t.deadline = some x ∧ x ≤ now := by
  unfold isDue
  cases t.deadline with
  | none =>
      constructor
      · intro h
        cases h
      · rintro ⟨x, hx, -⟩
        cases hx
  | some deadline =>
      constructor
      · intro h
        exact ⟨deadline, rfl, of_decide_eq_true h⟩
      · rintro ⟨x, hx, hle⟩
        cases hx
        exact decide_eq_true hle

/-- When something happens of which the editor takes the time. -/
def Happening.time? : Happening → Option Nat
  | .prompt (.command now .contentChanged) | .prompt (.poll now) => some now
  | _ => none

/-- Whether time does not go back while things happen. -/
def Ascending (hs : List Happening) : Prop :=
  (hs.filterMap Happening.time?).Pairwise (· ≤ ·)

namespace Desk

/-- Whether the news of a change is taken for an edit: a node is selected, and
    no change is expected. -/
def takesEdit (d : Desk) : Bool :=
  d.editor.selection.isSome && !d.editor.rendering

/-- What is noticed when something happens. -/
def noticed (d : Desk) : Happening → List Notice
  | .prompt (.command now .contentChanged) =>
      if d.takesEdit then [.edited now] else []
  | .prompt (.poll now) =>
      if (d.poll now).1 = .nothing then [] else [.saved now]
  | _ => []

/-- What is noticed while one thing after the other happens. -/
def notices (d : Desk) : List Happening → List Notice
  | [] => []
  | h :: rest => d.noticed h ++ (d.happen h).notices rest

/-- What an editor is asked or told that is no concern of its timer. -/
inductive Passes (d : Desk) : Prompt → Prop where
  /-- The change that it expects. -/
  | echo (now : Nat) (h : d.editor.rendering = true) :
      Passes d (.command now .contentChanged)
  /-- A change while no node is selected. -/
  | unselected (now : Nat) (h : d.editor.selection = none) :
      Passes d (.command now .contentChanged)
  /-- The node that is selected is asked for. -/
  | sameNode (now : Nat) : Passes d (.command now (.select d.editor.selection))
  /-- The side that is shown is asked for. -/
  | sameSide (now : Nat) : Passes d (.command now (.switchMode d.editor.mode))

variable {d : Desk} {hs : List Happening} {h : Happening}

/-! ## What becomes of the timer -/

/-- Saving leaves the timer as it is. -/
theorem commit_timer (d : Desk) : d.commit.2.editor.timer = d.editor.timer := by
  obtain ⟨dirty, state, counts, heq⟩ := d.commit_editor
  rw [heq]

/-- To save at once is to cancel the timer. -/
theorem flush_timer (d : Desk) :
    d.flush.2.editor.timer = d.editor.timer.cancel := by
  obtain ⟨dirty, state, counts, heq⟩ := d.flush_editor
  rw [heq]

/-- A shift of the selection cancels the timer. -/
theorem shift_timer (d : Desk) (id : Option String) :
    (d.shift id).editor.timer = d.editor.timer.cancel := by
  obtain ⟨d', hd', heq⟩ := d.redrawn_shift id
  rw [heq]
  exact hd'.shown.timer

/-- All that may become of the timer when something happens, and what is
    noticed then. -/
inductive Ticked (d : Desk) (h : Happening) : Prop where
  /-- A change is taken for an edit, and the timer is armed anew. -/
  | edited (now : Nat) (hnoticed : d.noticed h = [.edited now])
      (hafter : (d.happen h).editor.timer = d.editor.timer.arm now)
  /-- The timer is due, and the editor saves. -/
  | saved (now : Nat) (hnoticed : d.noticed h = [.saved now])
      (hdue : d.editor.timer.isDue now = true)
      (hafter : (d.happen h).editor.timer = d.editor.timer.cancel)
  /-- The timer is stopped for another reason. -/
  | stopped (hnoticed : d.noticed h = [])
      (hafter : (d.happen h).editor.timer = d.editor.timer.cancel)
  /-- The timer runs on. -/
  | kept (hnoticed : d.noticed h = [])
      (hafter : (d.happen h).editor.timer = d.editor.timer)

/-- A change that is taken for an edit arms the timer anew, and the timer runs
    on after any other. -/
theorem ticked_contentChanged (d : Desk) (now : Nat) :
    Ticked d (.prompt (.command now .contentChanged)) := by
  -- what is noticed depends only on whether the change is taken for an edit
  have hnoticed : d.noticed (.prompt (.command now .contentChanged))
      = if d.takesEdit then [.edited now] else [] := rfl
  cases hsel : d.editor.selection with
  | none =>
      have htakes : d.takesEdit = false := by
        unfold takesEdit
        rw [hsel]
        rfl
      refine .kept (by rw [hnoticed, htakes]; rfl) ?_
      show (d.contentChanged now).editor.timer = d.editor.timer
      rw [contentChanged_of_none hsel]
      rfl
  | some id =>
      cases hr : d.editor.rendering with
      | true =>
          have htakes : d.takesEdit = false := by
            unfold takesEdit
            rw [hr, Bool.not_true, Bool.and_false]
          refine .kept (by rw [hnoticed, htakes]; rfl) ?_
          show (d.contentChanged now).editor.timer = d.editor.timer
          rw [contentChanged_of_rendering hsel hr]
          rfl
      | false =>
          have htakes : d.takesEdit = true := by
            unfold takesEdit
            rw [hsel, hr]
            rfl
          refine .edited now (by rw [hnoticed, htakes]; rfl) ?_
          show (d.contentChanged now).editor.timer = d.editor.timer.arm now
          rw [contentChanged_of_edited hsel hr]
          rfl

/-- Asking the timer cancels it if it is due, and leaves it if not. -/
theorem Steady.ticked_poll (hd : Steady d.editor) (now : Nat) :
    Ticked d (.prompt (.poll now)) := by
  have hnoticed : d.noticed (.prompt (.poll now))
      = if (d.poll now).1 = .nothing then [] else [.saved now] := rfl
  by_cases hdue : d.editor.timer.isDue now = true
  · refine .saved now ?_ hdue ?_
    · rw [hnoticed, if_neg (hd.poll_due hdue).made]
    · show (d.poll now).2.editor.timer = d.editor.timer.cancel
      unfold Desk.poll
      rw [if_pos hdue]
      exact commit_timer (d.edit (fun e => { e with timer := e.timer.cancel }))
  · have heq := poll_not_due hdue
    refine .kept ?_ ?_
    · rw [hnoticed, heq, if_pos rfl]
    · show (d.poll now).2.editor.timer = d.editor.timer
      rw [heq]

/-- Selecting another node stops the timer. -/
theorem ticked_select (d : Desk) (now : Nat) (id : Option String) :
    Ticked d (.prompt (.command now (.select id))) := by
  by_cases hid : id = d.editor.selection
  · refine .kept rfl ?_
    show (d.select id).editor.timer = d.editor.timer
    rw [select, if_pos hid]
  · refine .stopped rfl ?_
    show (d.select id).editor.timer = d.editor.timer.cancel
    rw [select_of_ne hid, shift_timer, flush_timer]
    rfl

/-- Showing another side stops the timer. -/
theorem ticked_switchMode (d : Desk) (now : Nat) (mode : Mode) :
    Ticked d (.prompt (.command now (.switchMode mode))) := by
  by_cases hmode : mode = d.editor.mode
  · refine .kept rfl ?_
    show (d.switchMode mode).editor.timer = d.editor.timer
    rw [switchMode, if_pos hmode]
  · refine .stopped rfl ?_
    show (d.switchMode mode).editor.timer = d.editor.timer.cancel
    rw [switchMode, if_neg hmode, (render_shown _).timer]
    exact d.flush_timer

/-- Whatever happens, the timer is armed, saves, is stopped or runs on. -/
theorem Steady.ticked (hd : Steady d.editor) (h : Happening) : Ticked d h := by
  cases h with
  | disturbed w s clock => exact .kept rfl rfl
  | prompt p =>
      cases p with
      | poll now => exact hd.ticked_poll now
      | command now c =>
          cases c with
          | contentChanged => exact d.ticked_contentChanged now
          | select id => exact d.ticked_select now id
          | switchMode mode => exact d.ticked_switchMode now mode
          | flush => exact .stopped rfl d.flush_timer
          | shutdown => exact .stopped rfl d.flush_timer

/-- What is no concern of the timer leaves it alone. -/
theorem Passes.timer {p : Prompt} (h : Passes d p) :
    (d.prompted p).editor.timer = d.editor.timer := by
  cases h with
  | echo now hr =>
      show (d.contentChanged now).editor.timer = _
      cases hsel : d.editor.selection with
      | none => rw [contentChanged_of_none hsel]; rfl
      | some id => rw [contentChanged_of_rendering hsel hr]; rfl
  | unselected now hsel =>
      show (d.contentChanged now).editor.timer = _
      rw [contentChanged_of_none hsel]
      rfl
  | sameNode now =>
      show (d.select d.editor.selection).editor.timer = _
      rw [select, if_pos rfl]
  | sameSide now =>
      show (d.switchMode d.editor.mode).editor.timer = _
      rw [switchMode, if_pos rfl]

/-! ## Runs -/

/-- One more happening is noticed last. -/
theorem notices_append (d : Desk) (hs : List Happening) (h : Happening) :
    d.notices (hs ++ [h]) = d.notices hs ++ (d.happenAll hs).noticed h := by
  induction hs generalizing d with
  | nil => exact List.append_nil _
  | cons g rest ih =>
      show d.noticed g ++ (d.happen g).notices (rest ++ [h]) = _
      rw [ih, ← List.append_assoc]
      rfl

/-- What is noticed is noticed when it happens. -/
theorem noticed_time (d : Desk) (h : Happening) :
    ((d.noticed h).map Notice.time).Sublist h.time?.toList := by
  unfold noticed
  split
  · split
    · exact List.Sublist.refl _
    · exact List.nil_sublist _
  · split
    · exact List.nil_sublist _
    · exact List.Sublist.refl _
  · exact List.nil_sublist _

/-- What is noticed is noticed at the times of what happens, in order. -/
theorem notices_times (d : Desk) (hs : List Happening) :
    ((d.notices hs).map Notice.time).Sublist
      (hs.filterMap Happening.time?) := by
  induction hs generalizing d with
  | nil => exact List.Sublist.refl _
  | cons h rest ih =>
      have hcons : (h :: rest).filterMap Happening.time?
          = h.time?.toList ++ rest.filterMap Happening.time? := by
        rw [List.filterMap_cons]
        cases h.time? <;> rfl
      rw [notices, List.map_append, hcons]
      exact (d.noticed_time h).append (ih _)

/-- The timer lets be noticed what a timer may. -/
theorem Attended.timed (hd : Attended d) (hs : List Happening) :
    Notice.Timed d.editor.timer.delay d.editor.timer.deadline
      (d.notices hs) := by
  induction hs generalizing d with
  | nil => trivial
  | cons h rest ih =>
      -- what is noticed after the first happening is timed from where that
      -- leaves the timer
      have hrest := ih (attended_happenAll hd [h])
      change Notice.Timed (d.happen h).editor.timer.delay
        (d.happen h).editor.timer.deadline ((d.happen h).notices rest) at hrest
      rw [notices]
      cases hd.steady.ticked h with
      | edited now hnoticed hafter =>
          rw [hafter] at hrest
          rw [hnoticed]
          exact hrest
      | saved now hnoticed hdue hafter =>
          rw [hafter] at hrest
          rw [hnoticed]
          exact ⟨Debounce.isDue_iff.mp hdue, hrest⟩
      | stopped hnoticed hafter =>
          rw [hafter] at hrest
          rw [hnoticed]
          exact Notice.Timed.of_none hrest
      | kept hnoticed hafter =>
          rw [hafter] at hrest
          rw [hnoticed]
          exact hrest

/-- A timer that has not been armed before is due a quiet period after the
    last edit, if at all. -/
theorem Attended.due_eq (hd : Attended d)
    (hnone : d.editor.timer.deadline = none) (hs : List Happening) :
    (d.happenAll hs).editor.timer.delay = d.editor.timer.delay
      ∧ ∀ x, (d.happenAll hs).editor.timer.deadline = some x →
          ∃ last, (Notice.edits (d.notices hs)).getLast? = some last
            ∧ x = last + d.editor.timer.delay := by
  -- from the last happening, which arms the timer, stops it or leaves it alone
  induction hs using List.reverseRecOn with
  | nil =>
      refine ⟨rfl, fun x hx => ?_⟩
      cases hnone.symm.trans hx
  | append_singleton hs h ih =>
      obtain ⟨hdelay, hdue⟩ := ih
      rw [happenAll_append, notices_append]
      unfold Notice.edits at hdue ⊢
      rw [List.filterMap_append]
      cases (attended_happenAll hd hs).steady.ticked h with
      | edited now hnoticed hafter =>
          rw [hafter, hnoticed]
          refine ⟨hdelay, fun x hx => ⟨now, List.getLast?_concat .., ?_⟩⟩
          rw [← hdelay]
          exact (Option.some.inj hx).symm
      | saved now hnoticed _ hafter =>
          rw [hafter]
          exact ⟨hdelay, fun x hx => nomatch hx⟩
      | stopped hnoticed hafter =>
          rw [hafter]
          exact ⟨hdelay, fun x hx => nomatch hx⟩
      | kept hnoticed hafter =>
          rw [hafter, hnoticed]
          refine ⟨hdelay, fun x hx => ?_⟩
          rw [List.filterMap_nil, List.append_nil]
          exact hdue x hx

/-- So it is as long as there is an edit. -/
theorem Attended.deadline_eq (hd : Attended d)
    (hnone : d.editor.timer.deadline = none) {hs : List Happening}
    (hdirty : (d.happenAll hs).editor.dirty = true) :
    ∃ last, (Notice.edits (d.notices hs)).getLast? = some last
      ∧ (d.happenAll hs).editor.timer.deadline
        = some (last + d.editor.timer.delay) := by
  have hsteady := (attended_happenAll hd hs).steady
  obtain ⟨x, hx⟩ := Option.isSome_iff_exists.mp (hsteady.armed.mp hdirty)
  obtain ⟨last, hlast, rfl⟩ := (hd.due_eq hnone hs).2 x hx
  exact ⟨last, hlast, hx⟩

/-- The timer makes the editor attempt to save exactly if it is due. -/
theorem Steady.poll_ne_nothing_iff (hd : Steady d.editor) (now : Nat) :
    (d.poll now).1 ≠ .nothing ↔ d.editor.timer.isDue now = true := by
  constructor
  · intro hne
    by_contra hdue
    exact hne (by rw [poll_not_due hdue])
  · intro hdue
    exact (hd.poll_due hdue).made

/-- It is due exactly if there is an edit and its deadline has come. -/
theorem Steady.isDue_iff (hd : Steady d.editor) (now : Nat) :
    d.editor.timer.isDue now = true ↔
      d.editor.dirty = true
        ∧ ∃ x, d.editor.timer.deadline = some x ∧ x ≤ now := by
  rw [Debounce.isDue_iff]
  constructor
  · rintro ⟨x, hx, hle⟩
    have harmed : d.editor.timer.isArmed = true := by
      unfold Debounce.isArmed
      rw [hx]
      rfl
    exact ⟨hd.armed.mpr harmed, x, hx, hle⟩
  · rintro ⟨-, hdue⟩
    exact hdue

/-! ## The quiet period -/

/-- What is said of an editor with a quiet period once it has been noticed when
    it took changes for edits and when its timer made it save. -/
structure SavesAfterQuiet (delay : Nat) (noticed : List Notice) (d : Desk) :
    Prop where
  /-- As long as there is an edit the timer is due a quiet period after the
      last one. -/
  deadline : d.editor.dirty = true →
    ∃ last, (Notice.edits noticed).getLast? = some last
      ∧ d.editor.timer.deadline = some (last + delay)
  /-- The timer makes the editor attempt to save exactly if there is an edit
      and the quiet period has passed. -/
  poll : ∀ now, (d.poll now).1 ≠ .nothing ↔
    d.editor.dirty = true
      ∧ ∃ last, (Notice.edits noticed).getLast? = some last
        ∧ last + delay ≤ now
  /-- The attempt is to save the text on the surface as what is shown. -/
  attempt : ∀ now, (d.poll now).1 ≠ .nothing →
    ∃ id, d.editor.selection = some id
      ∧ ((d.poll now).1, (d.poll now).2.bench)
        = d.bench.save d.clock id d.editor.mode d.editor.surface.text
  /-- Otherwise nothing changes. -/
  idle : ∀ now, (d.poll now).1 = .nothing → (d.poll now).2 = d
  /-- What is no concern of the timer does not move it. -/
  unmoved : ∀ p, d.Passes p →
    (d.prompted p).editor.timer.deadline = d.editor.timer.deadline
  /-- Between two times that the timer makes it save there is an edit. -/
  between : ∀ before s mid t after,
    noticed = before ++ .saved s :: (mid ++ .saved t :: after) →
      ∃ now, .edited now ∈ mid
  /-- For a burst of edits the timer makes it save at most once, and not before
      the quiet period has passed since each of them. -/
  burst : ∀ before burst after, noticed = before ++ (burst ++ after) →
    Notice.Burst delay burst →
      (Notice.saves burst).length ≤ 1
        ∧ ∀ t ∈ Notice.saves burst, ∀ s ∈ Notice.edits burst, s + delay ≤ t

/-- Whatever happens around a new editor, if only time does not go back, it
    saves of its own accord when the quiet period has passed since the last
    edit, and only then. -/
theorem saves_after_quiet (config : EditorConfig) (w : Workbench)
    (s : Surface) (clock : Timestamp) (notes : List String)
    (hs : List Happening) (hasc : Ascending hs) :
    let d₀ := opened config w s clock notes
    SavesAfterQuiet config.debounce (d₀.notices hs) (d₀.happenAll hs) := by
  intro d₀
  have hnew : Attended d₀ := .new config w s clock notes
  have hsteady := (attended_happenAll hnew hs).steady
  have htimed : Notice.Timed config.debounce none (d₀.notices hs) :=
    hnew.timed hs
  have htimes : ((d₀.notices hs).map Notice.time).Pairwise (· ≤ ·) :=
    hasc.sublist (d₀.notices_times hs)
  exact
    { deadline := hnew.deadline_eq rfl
      poll := by
        intro now
        -- a poll saves exactly if there is an edit and its deadline has come
        rw [hsteady.poll_ne_nothing_iff, hsteady.isDue_iff]
        refine and_congr_right (fun hdirty => ?_)
        obtain ⟨last, hlast, hx⟩ := hnew.deadline_eq rfl hdirty
        rw [hx, hlast]
        simp only [Option.some.injEq, exists_eq_left']
        rfl
      attempt := by
        intro now hne
        obtain ⟨id, hid, houtcome, hbench⟩ :=
          (hsteady.poll_due ((hsteady.poll_ne_nothing_iff now).mp hne)).saved
        exact ⟨id, hid, Prod.ext houtcome hbench⟩
      idle := by
        intro now hnone
        have hnot : ¬ (d₀.happenAll hs).editor.timer.isDue now = true := by
          intro hdue
          exact (hsteady.poll_ne_nothing_iff now).mpr hdue hnone
        rw [poll_not_due hnot]
      unmoved := by
        intro p hp
        rw [hp.timer]
      between := by
        intro before s mid t after heq
        rw [heq] at htimed
        obtain ⟨later, hlater⟩ := htimed.of_append_right
        exact hlater.between
      burst := by
        intro before burst after heq hburst
        rw [heq] at htimed htimes
        obtain ⟨later, hlater⟩ := htimed.of_append_right
        -- a burst is timed by its own notices only, without those before and
        -- after
        obtain ⟨now, rest, rfl⟩ := hburst.begins
        rw [List.map_append, List.map_append] at htimes
        have hasc' := htimes.sublist
          ((List.sublist_append_left _ _).trans (List.sublist_append_right _ _))
        exact hlater.of_append_left.burst hasc' hburst.close }

/-- Two edits that follow one another closely are saved once, when the quiet
    period has passed since the second. -/
theorem saves_after_quiet_typing :
    let w := (({} : Workbench).addNode "code/javascript").2
    let d₀ := opened {} w {} default []
    let hs : List Happening :=
      [.prompt (.command 0 (.switchMode .description)),
        .prompt (.command 0 (.select (some "1"))),
        .prompt (.command 0 .contentChanged),
        .disturbed w { text := "a" } default,
        .prompt (.command 0 .contentChanged),
        .disturbed w { text := "ab" } default,
        .prompt (.command 800 .contentChanged),
        .prompt (.poll 1000), .prompt (.poll 1800), .prompt (.poll 5000)]
    Ascending hs
      ∧ d₀.notices hs = [.edited 0, .edited 800, .saved 1800]
      ∧ SavesAfterQuiet 1000 (d₀.notices hs) (d₀.happenAll hs) := by
  intro w d₀ hs
  have hasc : Ascending hs := by
    unfold Ascending
    decide
  exact ⟨hasc, by decide +kernel,
    saves_after_quiet {} w {} default [] hs hasc⟩

end Desk
end NodeFlow
