import Mathlib.Algebra.GroupWithZero.Nat
import NodeFlow.Proofs.Editor.Steady

/-! # The editor in the background

    The loop takes the next command, or looks at the timer when it is due,
    and which of the two comes first is left open.  Between two of its steps
    commands are sent and the desk is disturbed.  However that goes, the
    editor is steady, there is no edit left when the loop has stopped, and it
    stops once nobody sends anything any more (`steady_to_the_end`). -/

namespace NodeFlow.EditorLoop

open Desk (Attended AtRest SavedNow Steady cost unrest)

variable {l l' l₀ : EditorLoop} {d : Desk}

/-- A step of a loop that has not stopped, at any time. -/
inductive Goes (l : EditorLoop) : EditorLoop → Prop where
  /-- The next command is carried out. -/
  | command {c : EditorCommand} {rest : List EditorCommand} (now : Nat)
      (hrun : l.stopped = false) (hqueue : l.queue = c :: rest) :
      Goes l (({ l with queue := rest, now := now } : EditorLoop).apply c)
  /-- The timer is due. -/
  | due {t now : Nat} (hrun : l.stopped = false)
      (ht : l.desk.editor.timer.deadline = some t) (hnow : t ≤ now) :
      Goes l ({ l with now := now } : EditorLoop).tick
  /-- Nobody is left to send a command. -/
  | hangUp (hrun : l.stopped = false) (hqueue : l.queue = []) :
      Goes l (l.apply .shutdown)

/-- What a loop comes to. -/
inductive Driven (l₀ : EditorLoop) : EditorLoop → Prop where
  /-- It has not begun. -/
  | start : Driven l₀ l₀
  /-- It takes a step. -/
  | goes {l l' : EditorLoop} (h : Driven l₀ l) (hgoes : Goes l l') :
      Driven l₀ l'
  /-- It is sent a command. -/
  | send {l : EditorLoop} (h : Driven l₀ l) (c : EditorCommand) :
      Driven l₀ (l.send c).2
  /-- Anything but the editor changes. -/
  | disturbed {l : EditorLoop} (h : Driven l₀ l) (w : Workbench) (s : Surface)
      (clock : Timestamp) :
      Driven l₀ { l with desk := l.desk.disturbed w s clock }

/-! ## One step -/

/-- The desk once the changes of its surface are commands. -/
def heardOut (d : Desk) : Desk :=
  d.edit (fun e => { e with surface := e.surface.clearHeard })

theorem withDesk_desk (l : EditorLoop) (f : Desk → Desk) :
    (l.withDesk f).desk = heardOut (f l.desk) := by
  unfold withDesk forward
  simp only
  split <;> rfl

theorem withDesk_stopped (l : EditorLoop) (f : Desk → Desk) :
    (l.withDesk f).stopped = l.stopped := by
  unfold withDesk forward
  simp only
  split <;> rfl

theorem withDesk_queue (hrun : l.stopped = false) (f : Desk → Desk) :
    (l.withDesk f).queue = l.queue
      ++ List.replicate (f l.desk).editor.surface.heard .contentChanged := by
  unfold withDesk forward
  simp only [hrun, Bool.false_eq_true, if_false]

theorem apply_of_ne (l : EditorLoop) {c : EditorCommand}
    (hc : c ≠ .shutdown) :
    l.apply c = l.withDesk (fun d => d.obey l.now c) := by
  cases c with
  | shutdown => exact absurd rfl hc
  | _ => rfl

theorem apply_desk (l : EditorLoop) (c : EditorCommand) :
    (l.apply c).desk = heardOut (l.desk.obey l.now c) := by
  cases c <;> exact l.withDesk_desk _

theorem attended_heardOut (h : Attended d) : Attended (heardOut d) :=
  h.disturbed d.bench d.editor.surface.clearHeard d.clock

/-- A step of the loop leaves its editor attended. -/
theorem Goes.attended (hgoes : Goes l l') (h : Attended l.desk) :
    Attended l'.desk := by
  cases hgoes with
  | command now hrun hqueue =>
      rw [apply_desk]
      exact attended_heardOut (h.obey now _)
  | @due t now hrun ht hnow =>
      unfold tick
      rw [if_neg (by simp [hrun]), withDesk_desk]
      exact attended_heardOut (h.poll now)
  | hangUp hrun hqueue =>
      rw [apply_desk]
      exact attended_heardOut (h.obey l.now .shutdown)

/-- A loop stops only with nothing left to save. -/
theorem Goes.rest (hgoes : Goes l l') (h : Attended l.desk)
    (hstop : l'.stopped = true) : AtRest l'.desk.editor := by
  -- only a shutdown stops the loop, and it saves first
  have hshutdown : ∀ k : EditorLoop, k.desk = l.desk →
      AtRest (k.apply .shutdown).desk.editor := by
    intro k hk
    rw [apply_desk, hk]
    have hflush := h.steady.flush
    exact ⟨hflush.switching, hflush.dirty, hflush.deadline, hflush.state⟩
  cases hgoes with
  | @command c rest now hrun hqueue =>
      by_cases hc : c = .shutdown
      · subst hc
        exact hshutdown _ rfl
      · -- no other command stops it
        rw [apply_of_ne _ hc, withDesk_stopped] at hstop
        rw [show l.stopped = true from hstop] at hrun
        cases hrun
  | @due t now hrun ht hnow =>
      unfold tick at hstop
      rw [if_neg (by simp [hrun]), withDesk_stopped] at hstop
      rw [show l.stopped = true from hstop] at hrun
      cases hrun
  | hangUp hrun hqueue => exact hshutdown l rfl

/-- By induction over the steps: the editor of the loop is attended. -/
theorem Driven.attended (h : Driven l₀ l) (h₀ : Attended l₀.desk) :
    Attended l.desk := by
  induction h with
  | start => exact h₀
  | goes _ hgoes ih => exact hgoes.attended ih
  | @send l _ c ih =>
      unfold EditorLoop.send
      split <;> exact ih
  | disturbed _ w s clock ih => exact ih.disturbed w s clock

/-- Once the loop has stopped its editor is at rest. -/
theorem Driven.rest (h : Driven l₀ l) (h₀ : Attended l₀.desk)
    (hrun : l₀.stopped = false) (hstop : l.stopped = true) :
    AtRest l.desk.editor := by
  induction h with
  | start =>
      rw [hrun] at hstop
      cases hstop
  | goes h hgoes _ => exact hgoes.rest (h.attended h₀) hstop
  | @send l _ c ih =>
      unfold EditorLoop.send at hstop ⊢
      split at hstop <;> split <;> exact ih hstop
  | disturbed _ w s clock ih =>
      have hrest := ih hstop
      exact ⟨hrest.switching, hrest.dirty, hrest.deadline, hrest.state⟩

/-! ## The end -/

/-- What a loop has still to do at most. -/
def effort (l : EditorLoop) : Nat :=
  if l.stopped then 0
  else
    (l.queue.map (cost l.desk.editor.surface.weight)).sum
      + unrest l.desk.editor + 1

theorem effort_withDesk (hrun : l.stopped = false) {f : Desk → Desk}
    (hweight : (f l.desk).editor.surface.weight
      = l.desk.editor.surface.weight) :
    (l.withDesk f).effort
      = (l.queue.map (cost l.desk.editor.surface.weight)).sum
        + unrest (f l.desk).editor + 1 := by
  -- what was unheard of is in the queue now
  have hunrest : unrest (heardOut (f l.desk)).editor
      = (f l.desk).editor.dirty.toNat := Nat.zero_add _
  have hnews : ∀ n weight : Nat,
      ((List.replicate n EditorCommand.contentChanged).map (cost weight)).sum
        = 2 * n := by
    intro n weight
    simp [cost, Nat.mul_comm]
  have hweight' : (heardOut (f l.desk)).editor.surface.weight
      = l.desk.editor.surface.weight := hweight
  unfold effort
  rw [withDesk_stopped, hrun, withDesk_queue hrun, withDesk_desk, hweight',
    hunrest, List.map_append, List.sum_append, hnews]
  show _ + _ + _ + 1 = _ + (2 * (f l.desk).editor.surface.heard + _) + 1
  omega

/-- Every step of the loop leaves less to do. -/
theorem Goes.effort_lt (hgoes : Goes l l') (h : Steady l.desk.editor) :
    l'.effort < l.effort := by
  -- a loop that has stopped has nothing left to do
  have hstopped : ∀ k : EditorLoop, (k.apply .shutdown).effort = 0 :=
    fun _ => rfl
  have hpos : l.stopped = false → 0 < l.effort := by
    intro hrun
    unfold effort
    rw [hrun]
    exact Nat.succ_pos _
  cases hgoes with
  | @command c rest now hrun hqueue =>
      by_cases hc : c = .shutdown
      · subst hc
        rw [hstopped]
        exact hpos hrun
      · -- a command is taken from the queue, and costs more than it can leave
        -- to do
        obtain ⟨hweight, hlt⟩ := h.obey_unrest now c
        rw [apply_of_ne _ hc, effort_withDesk
          (l := { l with queue := rest, now := now }) hrun hweight]
        unfold effort
        rw [hrun, hqueue]
        simp only [Bool.false_eq_true, if_false, List.map_cons, List.sum_cons]
        omega
  | @due t now hrun ht hnow =>
      -- the timer is due, so there is an edit, and it is gone then
      have hdue : l.desk.editor.timer.isDue now = true := by
        simp [Debounce.isDue, ht, hnow]
      have hdirty : l.desk.editor.dirty = true := by
        rw [h.armed, Debounce.isArmed, ht]
        rfl
      have hsaved := h.poll_due hdue
      unfold tick
      rw [if_neg (by simp [hrun]), effort_withDesk
        (l := { l with now := now }) hrun (by rw [hsaved.surface])]
      unfold effort unrest
      rw [hrun, hsaved.surface, hsaved.rest.dirty, hdirty]
      simp
  | hangUp hrun hqueue =>
      rw [hstopped]
      exact hpos hrun

/-- A loop that is left to itself comes to its end. -/
theorem acc_goes (l : EditorLoop) (h : Attended l.desk) :
    Acc (fun l' l => Goes l l') l := by
  induction heffort : l.effort using Nat.strongRecOn generalizing l with
  | ind n ih =>
      subst heffort
      exact ⟨_, fun l' hgoes =>
        ih _ (hgoes.effort_lt h.steady) l' (hgoes.attended h) rfl⟩

/-- A loop that has not stopped can take a step. -/
theorem exists_goes (hrun : l.stopped = false) : ∃ l', Goes l l' := by
  cases hqueue : l.queue with
  | nil => exact ⟨_, .hangUp hrun hqueue⟩
  | cons c rest => exact ⟨_, .command l.now hrun hqueue⟩

/-! ## Whatever happens -/

/-- What holds of a desk between two commands to its editor. -/
structure Orderly (d : Desk) : Prop where
  /-- The editor is steady. -/
  steady : Steady d.editor
  /-- An edit is saved at once when that is asked for. -/
  flush : d.editor.dirty = true → SavedNow d d.flush
  /-- It is saved when the timer is found to be due. -/
  poll : ∀ now, d.editor.dirty = true → d.editor.timer.isDue now = true →
    SavedNow d (d.poll now)
  /-- Once the deadline has passed there is none. -/
  passed : ∀ t now, d.editor.timer.deadline = some t → t ≤ now →
    (d.poll now).2.editor.timer.deadline = none

/-- What a loop comes to in the end. -/
structure Concluded (l : EditorLoop) : Prop where
  /-- When it has stopped, there is no edit and no deadline. -/
  rest : l.stopped = true → AtRest l.desk.editor
  /-- Until then it can go on. -/
  goes : l.stopped = false → ∃ l', Goes l l'
  /-- It does not go on for ever if it is left to itself. -/
  ends : Acc (fun l' l => Goes l l') l

/-- However an editor is used, it is steady between commands, and a loop that
    works for it ends with nothing left to save. -/
theorem steady_to_the_end (h : Attended d) :
    Orderly d ∧ ∀ queue now l,
      Driven { desk := d, queue := queue, now := now } l → Concluded l := by
  have hsteady := h.steady
  refine ⟨⟨hsteady, hsteady.flush_dirty, fun _ _ => hsteady.poll_due,
    fun t now ht hnow => ?_⟩, fun queue now l hl => ?_⟩
  · exact (hsteady.poll_due (by simp [Debounce.isDue, ht, hnow])).rest.deadline
  · exact ⟨hl.rest h rfl, exists_goes, acc_goes l (hl.attended h)⟩

/-- A description is typed, and the timer is due before the command to stop is
    taken. -/
theorem steady_to_the_end_typed :
    let shown := ((Desk.beginning.obey 0 (.select (some "1"))).obey 1
      (.switchMode .description)).obey 2 .contentChanged
    let d := (shown.disturbed shown.bench (shown.editor.surface.edit "adds")
      shown.clock).obey 3 .contentChanged
    let l : EditorLoop := { desk := d, queue := [.shutdown], now := 3 }
    let l₁ := ({ l with now := 1003 } : EditorLoop).tick
    let l' := ({ l₁ with queue := List.replicate 3 .contentChanged } :
      EditorLoop).apply .shutdown
    Attended d ∧ d.editor.dirty = true ∧ Orderly d ∧ Driven l l'
      ∧ Concluded l' ∧ l'.stopped = true
      ∧ (l'.desk.bench.registry.record? "1").map Record.description
        = some "adds" := by
  intro shown d l l₁ l'
  have hd : Attended d :=
    ((((Attended.new {} _ _ _ []).obey 0 (.select (some "1"))).obey 1
      (.switchMode .description)).obey 2 .contentChanged).disturbed _ _ _
      |>.obey 3 .contentChanged
  have hl₁ : Driven l l₁ :=
    Driven.start.goes (.due (t := 1003) rfl (by decide) (Nat.le_refl _))
  -- three changes have become commands behind the one to stop
  have hqueue : l₁.queue = .shutdown :: List.replicate 3 .contentChanged := by
    decide
  have hl : Driven l l' := hl₁.goes (.command l₁.now (by decide) hqueue)
  obtain ⟨horderly, hloop⟩ := steady_to_the_end hd
  exact ⟨hd, by decide, horderly, hl, hloop _ _ _ hl, by decide, by decide⟩

end NodeFlow.EditorLoop
