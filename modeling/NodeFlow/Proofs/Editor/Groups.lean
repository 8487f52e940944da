import NodeFlow.Proofs.Editor.Echo
import NodeFlow.Proofs.Registry.Operations

/-! # Edits that are saved together

    An editor that hears of every change at once keeps its promises to the
    user: it works like a notebook that only remembers which edits are not
    saved yet (`saves_by_group`).  The edits of a side of a node form a group,
    which ends when another node or side is asked for, when saving is asked
    for, and when the timer is due.  A group is saved when it ends, once, to
    the node and side that it was made on, with the text of its last edit. -/

namespace NodeFlow

/-- What happens while an editor is open. -/
inductive Interaction where
  /-- A node is selected, or none. -/
  | select (id : Option String)
  /-- Another side of the node is to be shown. -/
  | switchMode (mode : Mode)
  /-- The edit is to be saved now. -/
  | flush
  /-- The edit is to be saved if the timer is due. -/
  | poll
  /-- The user edits the text. -/
  | edit (text : String)
  /-- Something else changes the workbench. -/
  | work (f : Workbench → Workbench)
  /-- The clock moves on. -/
  | tick (clock : Timestamp)

/-- An attempt to save an edit. -/
structure SaveAttempt where
  /-- The node. -/
  id : String
  /-- The side of it. -/
  mode : Mode
  /-- The text. -/
  text : String
  /-- What it came to. -/
  outcome : CommitOutcome
  deriving DecidableEq, Repr

/-! ## Saving a text -/

/-- The record with an identifier, unless it is removed. -/
def Workbench.liveRecord? (w : Workbench) (id : String) : Option Record :=
  (w.registry.record? id).filter (fun r => !r.removed)

/-- What it comes to when a text is saved as a side of a node, and the
    workbench after that. -/
def Workbench.save (w : Workbench) (clock : Timestamp) (id : String)
    (mode : Mode) (text : String) : CommitOutcome × Workbench :=
  if Text.allBlank text then (.blank, w)
  else
    match w.liveRecord? id with
    | none => (.rejected (.unknownNode id), w)
    | some r =>
        match mode with
        | .outline =>
            match Structure.parse text with
            | .error e => (.rejected (.unreadable e), w)
            | .ok s =>
                (.committed, (w.applyStructure id s.title s.inputs s.outputs).2)
        | .code => (.committed, (w.setCode id text r.codeLanguage clock).2)
        | .description => (.committed, (w.setDescription id text).2)

/-! ## The notebook -/

/-- An edit of a side of a node. -/
structure Draft where
  /-- The node. -/
  id : String
  /-- The side of it. -/
  mode : Mode
  /-- The text after the edit. -/
  text : String
  /-- When it was made. -/
  time : Nat
  deriving DecidableEq, Repr

/-- A workbench and the edits that are not saved to it yet. -/
structure Notebook where
  /-- The workbench. -/
  bench : Workbench
  /-- The time that saved code is stamped with. -/
  clock : Timestamp
  /-- The quiet period after which edits are saved. -/
  delay : Nat
  /-- The identifier of the selected node. -/
  selection : Option String
  /-- The side of it. -/
  mode : Mode
  /-- The edits that are not saved, oldest first. -/
  group : List Draft := []

namespace Notebook

/-- Whether an interaction ends the group. -/
def ends (n : Notebook) (now : Nat) : Interaction → Bool
  | .select id => id != n.selection
  | .switchMode mode => mode != n.mode
  | .flush => true
  | .poll => n.group.getLast?.any (fun x => x.time + n.delay ≤ now)
  | _ => false

/-- Save the group: its last edit is what counts. -/
def close (n : Notebook) : List SaveAttempt × Notebook :=
  match n.group.getLast? with
  | none => ([], n)
  | some x =>
      let saved := n.bench.save n.clock x.id x.mode x.text
      ([⟨x.id, x.mode, x.text, saved.1⟩],
        { n with bench := saved.2, group := [] })

/-- The notebook after an interaction, once a group that ends is saved.  A
    node that does not exist cannot be selected, and an edit counts only while
    a node is selected. -/
def after (n : Notebook) (now : Nat) : Interaction → Notebook
  | .select id =>
      if id = n.selection then n
      else
        { n with
          selection := id.filter (fun i => (n.bench.liveRecord? i).isSome) }
  | .switchMode mode => { n with mode := mode }
  | .flush | .poll => n
  | .edit text =>
      match n.selection with
      | none => n
      | some id => { n with group := n.group ++ [⟨id, n.mode, text, now⟩] }
  | .work f => { n with bench := f n.bench }
  | .tick clock => { n with clock := clock }

/-- An interaction: the attempts to save, and the notebook after it. -/
def turn (n : Notebook) (i : Interaction × Nat) : List SaveAttempt × Notebook :=
  let (attempts, closed) := if n.ends i.2 i.1 then n.close else ([], n)
  (attempts, closed.after i.2 i.1)

/-- One interaction after the other, each with the time it happens at. -/
def run (n : Notebook) : List (Interaction × Nat) → List SaveAttempt × Notebook
  | [] => ([], n)
  | i :: rest =>
      let (attempts, n) := n.turn i
      let (more, n) := n.run rest
      (attempts ++ more, n)

end Notebook

/-! ## The editor -/

namespace Desk

/-- What happens to the desk in an interaction. -/
def interact (d : Desk) (now : Nat) : Interaction → Desk
  | .select id => d.select id
  | .switchMode mode => d.switchMode mode
  | .flush => d.flush.2
  | .poll => (d.poll now).2
  | .edit text => d.userEdit text
  | .work f => { d with bench := f d.bench }
  | .tick clock => { d with clock := clock }

/-- What saving comes to in an interaction.  Before it shows another node or
    side, the editor saves the edit. -/
def outcome (d : Desk) (now : Nat) : Interaction → CommitOutcome
  | .select id => if id = d.editor.selection then .nothing else d.flush.1
  | .switchMode mode => if mode = d.editor.mode then .nothing else d.flush.1
  | .flush => d.flush.1
  | .poll => (d.poll now).1
  | _ => .nothing

/-- The attempt that has an outcome, if there was something to save: the text
    on the surface is saved to the node and side that are shown. -/
def attempted (d : Desk) (outcome : CommitOutcome) : List SaveAttempt :=
  match outcome, d.editor.selection with
  | .nothing, _ | _, none => []
  | outcome, some id =>
      [⟨id, d.editor.mode, d.editor.surface.text, outcome⟩]

/-- An interaction after which every change is heard of: the attempts to save,
    and the desk after it. -/
def turn (d : Desk) (i : Interaction × Nat) : List SaveAttempt × Desk :=
  (d.attempted (d.outcome i.2 i.1), ((d.interact i.2 i.1).deliver i.2).2)

/-- One interaction after the other, each with the time it happens at. -/
def turns (d : Desk) : List (Interaction × Nat) → List SaveAttempt × Desk
  | [] => ([], d)
  | i :: rest =>
      let (attempts, d) := d.turn i
      let (more, d) := d.turns rest
      (attempts ++ more, d)

/-- The notebook that a desk begins with. -/
def notebook (d : Desk) : Notebook :=
  { bench := d.bench
    clock := d.clock
    delay := d.editor.timer.delay
    selection := d.editor.selection
    mode := d.editor.mode }

/-- What a desk and a notebook have in common. -/
structure Tracks (n : Notebook) (d : Desk) : Prop where
  /-- They work on the same workbench. -/
  bench : d.bench = n.bench
  /-- The time is the same. -/
  clock : d.clock = n.clock
  /-- They wait for the same quiet period. -/
  delay : d.editor.timer.delay = n.delay
  /-- The same node is selected. -/
  selection : d.editor.selection = n.selection
  /-- The same side of it. -/
  mode : d.editor.mode = n.mode
  /-- The selection is not changing. -/
  switching : d.editor.switching = false
  /-- Every change of the surface is reported once. -/
  weight : d.editor.surface.weight = 1
  /-- There is an edit as long as there is a group. -/
  dirty : d.editor.dirty = !n.group.isEmpty
  /-- The timer runs from the last edit on. -/
  deadline : d.editor.timer.deadline
    = n.group.getLast?.map (fun x => x.time + n.delay)
  /-- The surface holds the last edit. -/
  text : ∀ x, n.group.getLast? = some x → d.editor.surface.text = x.text
  /-- All edits are of the side of the node that is shown. -/
  shown : ∀ x ∈ n.group, n.selection = some x.id ∧ n.mode = x.mode

/-- A desk between two interactions. -/
structure Follows (n : Notebook) (d : Desk) : Prop extends Tracks n d where
  /-- No change is expected. -/
  rendering : d.editor.rendering = false
  /-- None is unheard of. -/
  heard : d.editor.surface.heard = 0

/-- What has been counted between two moments is what attempts have come
    to. -/
structure Counted (d d' : Desk) (attempts : List SaveAttempt) : Prop where
  /-- The edits saved. -/
  commits : d'.editor.counts.commits = d.editor.counts.commits
    + attempts.countP (fun a => a.outcome == .committed)
  /-- The edits refused. -/
  rejections : d'.editor.counts.rejections = d.editor.counts.rejections
    + attempts.countP (fun a => a.outcome matches .rejected _)

variable {n : Notebook} {d d' d'' : Desk} {id : String}
  {as as' : List SaveAttempt}

/-! ## An attempt to save -/

/-- Where there is a text to save, saving comes to something. -/
theorem save_ne_nothing (w : Workbench) (clock : Timestamp) (id : String)
    (mode : Mode) (text : String) :
    (w.save clock id mode text).1 ≠ .nothing := by
  unfold Workbench.save
  split
  · exact CommitOutcome.noConfusion
  · split
    · exact CommitOutcome.noConfusion
    · split
      · split <;> exact CommitOutcome.noConfusion
      · exact CommitOutcome.noConfusion
      · exact CommitOutcome.noConfusion

/-- A record that exists is given title and ports. -/
theorem applyStructure_fst {w : Workbench} {r : Record}
    (h : w.registry.record? id = some r) (title : String)
    (ins outs : List Port) : (w.applyStructure id title ins outs).1 = true := by
  have hid : w.registry.records.contains id = true :=
    Table.contains_iff.mpr ⟨r, h⟩
  unfold Workbench.applyStructure Registry.setStructure Registry.update
  rw [if_pos hid]
  unfold Registry.record? at h ⊢
  simp only [Table.get?_modify, h, if_true, Option.map_some]
  cases Registry.handleOf? _ id <;> rfl

/-- A record that exists is given code. -/
theorem setCode_fst {w : Workbench} {r : Record}
    (h : w.registry.record? id = some r) (code language : String)
    (now : Timestamp) : (w.setCode id code language now).1 = true := by
  have hid : w.registry.records.contains id = true :=
    Table.contains_iff.mpr ⟨r, h⟩
  unfold Workbench.setCode Registry.updateProperties Registry.update
  rw [if_pos hid]
  simp only [if_true]
  unfold Registry.saveCode
  unfold Registry.record? at h
  simp [Table.contains, Table.get?_modify, h]

/-- A record that exists is given a description. -/
theorem setDescription_fst {w : Workbench} {r : Record}
    (h : w.registry.record? id = some r) (text : String) :
    (w.setDescription id text).1 = true := by
  have hid : w.registry.records.contains id = true :=
    Table.contains_iff.mpr ⟨r, h⟩
  unfold Workbench.setDescription Registry.updateProperties Registry.update
  rw [if_pos hid]

/-- What has been counted once an attempt to save has come to something. -/
def counted (c : EditorCounts) : CommitOutcome → EditorCounts
  | .committed => { c with commits := c.commits + 1 }
  | .rejected _ => { c with rejections := c.rejections + 1 }
  | _ => c

/-- The desk once an attempt to save has come to something. -/
def settled (d : Desk) (saved : CommitOutcome × Workbench)
    (notes : List String) : Desk :=
  ({ d with bench := saved.2, notes := notes } : Desk).edit
    (fun e => { e with counts := counted e.counts saved.1 })

/-- An attempt to save the text on the surface. -/
theorem attempt_eq (d : Desk) (id : String) :
    let saved := d.bench.save d.clock id d.editor.mode d.editor.surface.text
    ∃ notes, d.attempt id = (saved.1, d.settled saved notes) := by
  unfold attempt store Workbench.save liveRecord? Workbench.liveRecord?
  -- whatever becomes of the text, only notes are added besides what saving
  -- does
  simp only
  split
  · exact ⟨d.notes, rfl⟩
  · cases hr : (d.bench.registry.record? id).filter (fun r => !r.removed) with
    | none => exact ⟨d.notes, rfl⟩
    | some r =>
        have hrec := (Option.filter_eq_some_iff.mp hr).1
        cases d.editor.mode with
        | outline =>
            cases Structure.parse d.editor.surface.text with
            | error e => exact ⟨_, rfl⟩
            | ok s =>
                simp only [applyStructure_fst hrec, if_true]
                exact ⟨d.notes, rfl⟩
        | code =>
            simp only [setCode_fst hrec, if_true]
            exact ⟨d.notes, rfl⟩
        | description =>
            simp only [setDescription_fst hrec, if_true]
            exact ⟨d.notes, rfl⟩

/-- The edit on the surface is saved to the selected node if the editor
    neither expects a change nor changes the selection. -/
theorem commit_eq (hsel : d.editor.selection = some id)
    (hrendering : d.editor.rendering = false)
    (hswitching : d.editor.switching = false) :
    let saved := d.bench.save d.clock id d.editor.mode d.editor.surface.text
    ∃ notes, d.commit = (saved.1,
      (d.settled saved notes).edit
        (fun e => { e with dirty := false, state := .idle })) := by
  intro saved
  obtain ⟨notes, heq⟩ :=
    attempt_eq (d.edit (fun e => { e with dirty := false })) id
  refine ⟨notes, ?_⟩
  unfold commit
  rw [hsel]
  simp only [hrendering, hswitching, Bool.or_self, Bool.false_eq_true,
    if_false, heq]
  rfl

/-! ## Counting -/

/-- Where nothing happens nothing is counted. -/
theorem Counted.refl (d : Desk) : Counted d d [] := ⟨rfl, rfl⟩

/-- Counts add up. -/
theorem Counted.trans (h : Counted d d' as) (h' : Counted d' d'' as') :
    Counted d d'' (as ++ as') where
  commits := by
    rw [h'.commits, h.commits, List.countP_append, Nat.add_assoc]
  rejections := by
    rw [h'.rejections, h.rejections, List.countP_append, Nat.add_assoc]

/-! ## The end of a group -/

/-- A group is saved with the text of its last edit. -/
theorem close_of_some {x : Draft} (hx : n.group.getLast? = some x) :
    let saved := n.bench.save n.clock x.id x.mode x.text
    n.close = ([⟨x.id, x.mode, x.text, saved.1⟩],
      { n with bench := saved.2, group := [] }) := by
  unfold Notebook.close
  rw [hx]

/-- Without a group nothing is saved. -/
theorem close_of_nil (hn : n.group = []) : n.close = ([], n) := by
  unfold Notebook.close
  rw [hn]
  rfl

/-- A group that has been saved is over. -/
theorem close_group (n : Notebook) : n.close.2.group = [] := by
  cases hx : n.group.getLast? with
  | none =>
      have hn := List.getLast?_eq_none_iff.mp hx
      rw [close_of_nil hn, hn]
  | some x => rw [close_of_some hx]

/-- What the desk saves is what the notebook saves, and the desk follows the
    notebook after that. -/
structure SavesLike (d : Desk) (c : CommitOutcome × Desk)
    (s : List SaveAttempt × Notebook) : Prop where
  /-- The attempts are the same. -/
  attempts : d.attempted c.1 = s.1
  /-- The desk follows the notebook. -/
  follows : Follows s.2 c.2
  /-- The attempts are counted. -/
  counted : Counted d c.2 s.1

/-- There is nothing to save. -/
theorem Follows.savesLike_nothing (h : Follows n d) :
    SavesLike d (.nothing, d) ([], n) :=
  ⟨rfl, h, .refl d⟩

/-- Unless saving comes to nothing there was one attempt, with the text on the
    surface as it is. -/
theorem attempted_of_ne {o : CommitOutcome} (ho : o ≠ .nothing)
    (hsel : d.editor.selection = some id) :
    d.attempted o = [⟨id, d.editor.mode, d.editor.surface.text, o⟩] := by
  unfold attempted
  rw [hsel]
  cases o with
  | nothing => exact absurd rfl ho
  | _ => rfl

/-- An attempt is counted by what it has come to. -/
theorem counted_of_counts {a : SaveAttempt}
    (h : d'.editor.counts = counted d.editor.counts a.outcome) :
    Counted d d' [a] := by
  constructor <;> rw [h] <;> cases ho : a.outcome <;> simp [ho, counted]

/-- A group that ends is saved. -/
theorem Follows.savesLike_close (h : Follows n d) {x : Draft}
    (hx : n.group.getLast? = some x) :
    SavesLike d (d.edit (fun e => { e with timer := e.timer.cancel })).commit
      n.close := by
  obtain ⟨hid, hmode⟩ := h.shown x (List.mem_of_getLast? hx)
  have hsel : d.editor.selection = some x.id := h.selection.trans hid
  have hsaved : d.bench.save d.clock x.id d.editor.mode d.editor.surface.text
      = n.bench.save n.clock x.id x.mode x.text := by
    rw [h.bench, h.clock, h.mode, h.text x hx, hmode]
  obtain ⟨notes, heq⟩ := commit_eq
    (d := d.edit (fun e => { e with timer := e.timer.cancel })) hsel
    h.rendering h.switching
  rw [heq, close_of_some hx, ← hsaved]
  refine ⟨?_, ?_, counted_of_counts rfl⟩
  · rw [← hmode, ← h.mode, ← h.text x hx]
    exact attempted_of_ne (save_ne_nothing _ _ _ _ _) hsel
  · exact ⟨⟨rfl, h.clock, h.delay, h.selection, h.mode, h.switching, h.weight,
      rfl, rfl, (fun _ hy => nomatch hy), (fun _ hy => nomatch hy)⟩,
      h.rendering, h.heard⟩

/-- Without a group there is no edit and the timer is not armed. -/
theorem Tracks.of_nil (h : Tracks n d) (hn : n.group = []) :
    d.editor.dirty = false ∧ d.editor.timer.deadline = none := by
  rw [h.dirty, h.deadline, hn]
  exact ⟨rfl, rfl⟩

/-- To save at once is to end the group. -/
theorem Follows.flush (h : Follows n d) : SavesLike d d.flush n.close := by
  cases hx : n.group.getLast? with
  | none =>
      have hn := List.getLast?_eq_none_iff.mp hx
      obtain ⟨hdirty, hdeadline⟩ := h.of_nil hn
      rw [flush_of_clean hdirty hdeadline, close_of_nil hn]
      exact h.savesLike_nothing
  | some x =>
      have hdirty : d.editor.dirty = true := by
        have hne : n.group ≠ [] := List.ne_nil_of_mem (List.mem_of_getLast? hx)
        rw [h.dirty, List.isEmpty_eq_false_iff.mpr hne]
        rfl
      have heq : d.flush
          = (d.edit (fun e => { e with timer := e.timer.cancel })).commit := by
        unfold Desk.flush
        exact if_pos hdirty
      rw [heq]
      exact h.savesLike_close hx

/-- The timer is due once the quiet period has passed since the last edit. -/
theorem Follows.isDue (h : Follows n d) (now : Nat) :
    d.editor.timer.isDue now = n.ends now .poll := by
  unfold Debounce.isDue Notebook.ends
  rw [h.deadline]
  cases n.group.getLast? <;> rfl

/-- To ask the timer is to end the group if the quiet period is over. -/
theorem Follows.poll (h : Follows n d) (now : Nat) :
    SavesLike d (d.poll now)
      (if n.ends now .poll then n.close else ([], n)) := by
  unfold Desk.poll
  rw [h.isDue]
  split
  · rename_i hends
    cases hx : n.group.getLast? with
    | none => simp [Notebook.ends, hx] at hends
    | some x => exact h.savesLike_close hx
  · exact h.savesLike_nothing

/-! ## Hearing of a change -/

/-- What an edit of the editor makes of it is all that counts. -/
theorem edit_congr {f g : Editor → Editor} (h : f d.editor = g d.editor) :
    d.edit f = d.edit g := by
  unfold Desk.edit
  rw [h]

/-- A change is let go if no node is selected. -/
theorem contentChanged_of_none (hsel : d.editor.selection = none)
    (now : Nat) :
    d.contentChanged now = d.edit (fun e => { e with rendering := false }) :=
  edit_congr (if_pos (by rw [hsel]; rfl))

/-- A change that is expected is an echo, and no edit. -/
theorem contentChanged_of_rendering (hsel : d.editor.selection = some id)
    (hr : d.editor.rendering = true) (now : Nat) :
    d.contentChanged now
      = d.edit (fun e => { e with
          rendering := false
          counts := { e.counts with echoes := e.counts.echoes + 1 } }) :=
  edit_congr ((if_neg (by simp [hsel])).trans (if_pos hr))

/-- A change that is not expected is an edit, and sets the timer anew. -/
theorem contentChanged_of_edited (hsel : d.editor.selection = some id)
    (hr : d.editor.rendering = false) (now : Nat) :
    d.contentChanged now
      = d.edit (fun e => { e with
          dirty := true
          state := .editing
          timer := e.timer.arm now }) :=
  edit_congr ((if_neg (by simp [hsel])).trans (if_neg (by simp [hr])))

/-- Whether the editor expects a change exactly if one is unheard of. -/
def Awaits (e : Editor) : Prop :=
  e.surface.heard = if e.rendering then 1 else 0

/-- Everything on the surface has been heard of. -/
def caughtUp (d : Desk) : Desk :=
  d.edit (fun e => { e with surface := e.surface.clearHeard })

/-- Nothing is delivered if every change has been heard of. -/
theorem deliver_of_zero (h : d.editor.surface.heard = 0) (now : Nat) :
    (d.deliver now).2 = d.caughtUp := by
  unfold Desk.deliver
  rw [h]
  rfl

/-- One change that is unheard of is delivered. -/
theorem deliver_of_one (h : d.editor.surface.heard = 1) (now : Nat) :
    (d.deliver now).2 = d.caughtUp.contentChanged now := by
  unfold Desk.deliver
  rw [h]
  rfl

/-- Once the expected change has been heard of, none is expected. -/
theorem Tracks.deliver (h : Tracks n d) (ha : Awaits d.editor) (now : Nat) :
    Follows n (d.deliver now).2 ∧ Counted d (d.deliver now).2 [] := by
  unfold Awaits at ha
  cases hr : d.editor.rendering with
  | false =>
      -- nothing is unheard of, so nothing is delivered
      rw [hr] at ha
      rw [deliver_of_zero ha]
      exact ⟨⟨⟨h.bench, h.clock, h.delay, h.selection, h.mode, h.switching,
        h.weight, h.dirty, h.deadline, h.text, h.shown⟩, hr, rfl⟩, rfl, rfl⟩
  | true =>
      -- the one change that is unheard of is the echo of a write
      rw [hr] at ha
      rw [deliver_of_one ha]
      cases hsel : d.editor.selection with
      | none =>
          rw [contentChanged_of_none (d := d.caughtUp) hsel]
          exact ⟨⟨⟨h.bench, h.clock, h.delay, h.selection, h.mode,
            h.switching, h.weight, h.dirty, h.deadline, h.text, h.shown⟩,
            rfl, rfl⟩, rfl, rfl⟩
      | some id =>
          rw [contentChanged_of_rendering (d := d.caughtUp) hsel hr]
          exact ⟨⟨⟨h.bench, h.clock, h.delay, h.selection, h.mode,
            h.switching, h.weight, h.dirty, h.deadline, h.text, h.shown⟩,
            rfl, rfl⟩, rfl, rfl⟩

/-- Between two interactions no change is expected, and none is unheard of. -/
theorem Follows.awaits (h : Follows n d) : Awaits d.editor := by
  unfold Awaits
  rw [h.heard, h.rendering]
  rfl

/-! ## Showing another node or side -/

/-- What showing a node leaves as it is. -/
structure Redrawn (d d' : Desk) : Prop where
  /-- A write is expected to be heard of. -/
  shown : Shown d.editor d'.editor
  /-- The workbench. -/
  bench : d'.bench = d.bench
  /-- The clock. -/
  clock : d'.clock = d.clock
  /-- The selected node. -/
  selection : d'.editor.selection = d.editor.selection
  /-- The side of it. -/
  mode : d'.editor.mode = d.editor.mode
  /-- Who listens to the surface. -/
  weight : d'.editor.surface.weight = d.editor.surface.weight
  /-- A single write is a single change. -/
  awaits : d.editor.rendering = false → d.editor.surface.heard = 0 →
    d.editor.surface.weight = 1 → Awaits d'.editor

/-- A text that is put on the surface is expected to be heard of. -/
theorem redrawn_put (d : Desk) (text language : String) (state : EditorState) :
    Redrawn d
      (d.edit (fun e => { put e text language with state := state })) := by
  have hs := put_shown d.editor text language
  have hshown : Shown d.editor
      { put d.editor text language with state := state } :=
    ⟨hs.dirty, hs.timer, hs.switching, hs.commits, hs.rejections, hs.guard⟩
  unfold edit
  by_cases htext : d.editor.surface.text = text
  · refine ⟨hshown, rfl, rfl, ?_, ?_, ?_, fun hr hheard _ => ?_⟩ <;>
      simp [put, putText, Surface.setLanguage, Awaits, *]
  · refine ⟨hshown, rfl, rfl, ?_, ?_, ?_, fun hr hheard hw => ?_⟩ <;>
      simp [put, putText, Surface.setLanguage, Surface.setText,
        Surface.changed, Awaits, *]

/-- To show a node is to put one of its sides on the surface. -/
theorem redrawn_render (d : Desk) : Redrawn d d.render := by
  unfold render
  split
  · refine ⟨⟨rfl, rfl, rfl, rfl, rfl, by simp⟩, rfl, rfl, rfl, rfl, rfl,
      fun hr hheard _ => ?_⟩
    unfold Awaits
    rw [hheard, hr]
    rfl
  · exact redrawn_put d _ _ _

/-- To show nothing is to put the empty text on the surface. -/
theorem redrawn_clearSurface (d : Desk) : Redrawn d d.clearSurface := by
  have h := redrawn_put d "" "plaintext" (put d.editor "" "plaintext").state
  exact h

/-- Show a node, or none; whatever is on the surface is given up. -/
def shift (d : Desk) (id : Option String) : Desk :=
  let target := id.filter (fun i => (d.liveRecord? i).isSome)
  let d := d.turned target
  (if target.isSome then d.render else d.clearSurface).edit
    (fun e => { e with switching := false, state := .idle })

/-- To select another node is to save first and then to show that one. -/
theorem select_of_ne {id : Option String} (hid : id ≠ d.editor.selection) :
    d.select id = d.flush.2.shift id := by
  unfold Desk.select
  rw [if_neg hid]
  rfl

/-- What a shift leaves is a selection and a surface drawn anew. -/
theorem redrawn_shift (d : Desk) (id : Option String) :
    ∃ d', Redrawn
        (d.turned (id.filter (fun i => (d.liveRecord? i).isSome))) d'
      ∧ d.shift id
        = d'.edit (fun e => { e with switching := false, state := .idle }) := by
  refine ⟨_, ?_, rfl⟩
  split
  · exact redrawn_render _
  · exact redrawn_clearSurface _

/-- Without a group nothing is lost when another node is shown. -/
theorem Follows.shift (h : Follows n d) (hn : n.group = [])
    (id : Option String) :
    let n' : Notebook := { n with
      selection := id.filter (fun i => (n.bench.liveRecord? i).isSome) }
    Tracks n' (d.shift id) ∧ Awaits (d.shift id).editor
      ∧ Counted d (d.shift id) [] := by
  intro n'
  obtain ⟨d', hd', heq⟩ := d.redrawn_shift id
  -- the desk knows the same records as the notebook
  have htarget : id.filter (fun i => (d.liveRecord? i).isSome)
      = n'.selection := by
    show id.filter (fun i => (d.bench.liveRecord? i).isSome) = _
    rw [h.bench]
  have htimer : d'.editor.timer = d.editor.timer.cancel := hd'.shown.timer
  rw [heq]
  refine ⟨⟨hd'.bench.trans h.bench, hd'.clock.trans h.clock, ?_,
    hd'.selection.trans htarget, hd'.mode.trans h.mode, rfl,
    hd'.weight.trans h.weight, ?_, ?_, ?_, ?_⟩, ?_, ?_⟩
  · show d'.editor.timer.delay = n.delay
    rw [htimer]
    exact h.delay
  · show d'.editor.dirty = !n.group.isEmpty
    rw [hn]
    exact hd'.shown.dirty
  · show d'.editor.timer.deadline = n.group.getLast?.map _
    rw [htimer, hn]
    rfl
  · -- without a group there is no edit to be kept
    rw [show n'.group = [] from hn]
    exact fun _ hx => nomatch hx
  · rw [show n'.group = [] from hn]
    exact fun _ hx => nomatch hx
  · exact hd'.awaits rfl h.heard h.weight
  · exact ⟨hd'.shown.commits, hd'.shown.rejections⟩

/-- Without a group nothing is lost when another side is shown. -/
theorem Follows.showMode (h : Follows n d) (hn : n.group = []) (mode : Mode) :
    let d' := (d.edit (fun e => { e with mode := mode })).render
    Tracks { n with mode := mode } d' ∧ Awaits d'.editor ∧ Counted d d' [] := by
  have hd' := (d.edit (fun e => { e with mode := mode })).redrawn_render
  obtain ⟨hdirty, hdeadline⟩ := h.of_nil hn
  refine ⟨⟨hd'.bench.trans h.bench, hd'.clock.trans h.clock, ?_,
    hd'.selection.trans h.selection, hd'.mode, hd'.shown.switching.trans
    h.switching, hd'.weight.trans h.weight, ?_, ?_, ?_, ?_⟩, ?_, ?_⟩
  · rw [hd'.shown.timer]
    exact h.delay
  · rw [hd'.shown.dirty]
    exact h.dirty
  · rw [hd'.shown.timer]
    exact h.deadline
  · rw [show ({ n with mode := mode } : Notebook).group = [] from hn]
    exact fun _ hx => nomatch hx
  · rw [show ({ n with mode := mode } : Notebook).group = [] from hn]
    exact fun _ hx => nomatch hx
  · exact hd'.awaits h.rendering h.heard h.weight
  · exact ⟨hd'.shown.commits, hd'.shown.rejections⟩

/-! ## Edits -/

/-- An edit joins the group if a node is selected, and is let go if not. -/
theorem Follows.edit (h : Follows n d) (text : String) (now : Nat) :
    Follows (n.after now (.edit text)) ((d.userEdit text).deliver now).2
      ∧ Counted d ((d.userEdit text).deliver now).2 [] := by
  have hone : (d.userEdit text).editor.surface.heard = 1 := by
    show d.editor.surface.heard + d.editor.surface.weight = 1
    rw [h.heard, h.weight]
  rw [deliver_of_one hone]
  cases hsel : n.selection with
  | none =>
      -- an edit of the group would be of a selected node
      have hn : n.group = [] := by
        refine List.eq_nil_iff_forall_not_mem.mpr (fun x hx => ?_)
        have hid := (h.shown x hx).1
        rw [hsel] at hid
        cases hid
      have hafter : n.after now (.edit text) = n := by
        simp only [Notebook.after, hsel]
      rw [hafter, contentChanged_of_none (d := (d.userEdit text).caughtUp)
        (h.selection.trans hsel)]
      refine ⟨⟨⟨h.bench, h.clock, h.delay, h.selection, h.mode, h.switching,
        h.weight, h.dirty, h.deadline, ?_, h.shown⟩, rfl, rfl⟩, rfl, rfl⟩
      rw [hn]
      exact fun _ hx => nomatch hx
  | some id =>
      have hafter : n.after now (.edit text)
          = { n with group := n.group ++ [⟨id, n.mode, text, now⟩] } := by
        simp only [Notebook.after, hsel]
      rw [hafter, contentChanged_of_edited (d := (d.userEdit text).caughtUp)
        (h.selection.trans hsel) h.rendering]
      refine ⟨⟨⟨h.bench, h.clock, h.delay, h.selection, h.mode, h.switching,
        h.weight, ?_, ?_, ?_, ?_⟩, h.rendering, rfl⟩, rfl, rfl⟩
      · simp [Desk.edit]
      · simp [Desk.edit, Debounce.arm, ← h.delay, userEdit, caughtUp]
      · simp [Desk.edit, userEdit, caughtUp, Surface.clearHeard, Surface.edit,
          Surface.changed]
      · intro x hx
        rcases List.mem_append.mp hx with hx | hx
        · exact h.shown x hx
        · rw [List.mem_singleton.mp hx]
          exact ⟨hsel, rfl⟩

/-! ## Interactions -/

/-- After an interaction the desk has made the attempts of the notebook, and
    follows it. -/
structure InStep (d : Desk) (t : List SaveAttempt × Desk)
    (s : List SaveAttempt × Notebook) : Prop where
  /-- The attempts are the same. -/
  attempts : t.1 = s.1
  /-- The desk follows the notebook. -/
  follows : Follows s.2 t.2
  /-- The attempts are counted. -/
  counted : Counted d t.2 s.1

/-- Ending a group selects nothing else. -/
theorem close_selection (n : Notebook) : n.close.2.selection = n.selection := by
  unfold Notebook.close
  split <;> rfl

/-- An interaction that ends the group saves it first. -/
theorem turn_of_ends {i : Interaction × Nat} (h : n.ends i.2 i.1 = true) :
    n.turn i = (n.close.1, n.close.2.after i.2 i.1) := by
  unfold Notebook.turn
  rw [h]
  rfl

/-- Another interaction saves nothing. -/
theorem turn_of_not_ends {i : Interaction × Nat} (h : n.ends i.2 i.1 = false) :
    n.turn i = ([], n.after i.2 i.1) := by
  unfold Notebook.turn
  rw [h]
  rfl

/-- What is saved first, and what is shown and heard of then. -/
theorem SavesLike.inStep {c : CommitOutcome × Desk}
    {s : List SaveAttempt × Notebook} {n' : Notebook} (hs : SavesLike d c s)
    (h : Tracks n' d' ∧ Awaits d'.editor ∧ Counted c.2 d' []) (now : Nat) :
    InStep d (d.attempted c.1, (d'.deliver now).2) (s.1, n') := by
  obtain ⟨htracks, hawaits, hcounted⟩ := h
  obtain ⟨hfollows, hheard⟩ := htracks.deliver hawaits now
  refine ⟨hs.attempts, hfollows, ?_⟩
  have hall := (hs.counted.trans hcounted).trans hheard
  rwa [List.append_nil, List.append_nil] at hall

/-- Selecting keeps desk and notebook in step. -/
theorem Follows.inStep_select (h : Follows n d) (id : Option String)
    (now : Nat) :
    InStep d (d.turn (.select id, now)) (n.turn (.select id, now)) := by
  by_cases hid : id = d.editor.selection
  · -- the same node is selected again
    have hsame : id = n.selection := hid.trans h.selection
    have hends : n.ends now (.select id) = false := by
      simp [Notebook.ends, hsame]
    have hafter : n.after now (.select id) = n := if_pos hsame
    have hturn : d.turn (.select id, now) = ([], (d.deliver now).2) := by
      simp [Desk.turn, outcome, interact, attempted, Desk.select, hid]
    rw [turn_of_not_ends hends, hafter, hturn]
    exact h.savesLike_nothing.inStep
      ⟨h.toTracks, h.awaits, .refl d⟩ now
  · have hother : id ≠ n.selection := fun heq =>
      hid (heq.trans h.selection.symm)
    have hends : n.ends now (.select id) = true := by
      simp [Notebook.ends, hother]
    have hafter : n.close.2.after now (.select id) = _ :=
      if_neg (by rw [close_selection]; exact hother)
    have hturn : d.turn (.select id, now)
        = (d.attempted d.flush.1, ((d.flush.2.shift id).deliver now).2) := by
      simp only [Desk.turn, outcome, interact, if_neg hid, select_of_ne hid]
    rw [turn_of_ends hends, hafter, hturn]
    exact h.flush.inStep (h.flush.follows.shift (close_group n) id) now

/-- Showing another side keeps desk and notebook in step. -/
theorem Follows.inStep_switchMode (h : Follows n d) (mode : Mode) (now : Nat) :
    InStep d (d.turn (.switchMode mode, now))
      (n.turn (.switchMode mode, now)) := by
  by_cases hmode : mode = d.editor.mode
  · -- the same side is shown again
    have hsame : mode = n.mode := hmode.trans h.mode
    have hends : n.ends now (.switchMode mode) = false := by
      simp [Notebook.ends, hsame]
    have hafter : n.after now (.switchMode mode) = n := by
      simp [Notebook.after, hsame]
    have hturn : d.turn (.switchMode mode, now) = ([], (d.deliver now).2) := by
      simp [Desk.turn, outcome, interact, attempted, Desk.switchMode, hmode]
    rw [turn_of_not_ends hends, hafter, hturn]
    exact h.savesLike_nothing.inStep
      ⟨h.toTracks, h.awaits, .refl d⟩ now
  · have hother : mode ≠ n.mode := fun heq => hmode (heq.trans h.mode.symm)
    have hends : n.ends now (.switchMode mode) = true := by
      simp [Notebook.ends, hother]
    have hturn : d.turn (.switchMode mode, now)
        = (d.attempted d.flush.1,
          ((d.flush.2.edit (fun e =>
            { e with mode := mode })).render.deliver now).2) := by
      simp only [Desk.turn, outcome, interact, Desk.switchMode, if_neg hmode]
    rw [turn_of_ends hends, hturn]
    exact h.flush.inStep (h.flush.follows.showMode (close_group n) mode) now

/-- An interaction that only saves. -/
theorem SavesLike.inStep_of_saved {c : CommitOutcome × Desk}
    {s : List SaveAttempt × Notebook} (hs : SavesLike d c s) (now : Nat) :
    InStep d (d.attempted c.1, (c.2.deliver now).2) s :=
  hs.inStep ⟨hs.follows.toTracks, hs.follows.awaits, .refl c.2⟩ now

/-- The desk follows the notebook through every interaction. -/
theorem Follows.turn (h : Follows n d) (i : Interaction × Nat) :
    InStep d (d.turn i) (n.turn i) := by
  obtain ⟨i, now⟩ := i
  cases i with
  | select id => exact h.inStep_select id now
  | switchMode mode => exact h.inStep_switchMode mode now
  | flush => exact h.flush.inStep_of_saved now
  | poll => exact (h.poll now).inStep_of_saved now
  | edit text =>
      obtain ⟨hfollows, hcounted⟩ := h.edit text now
      -- work on the model and ticks of the clock touch nothing of the editor
      exact ⟨rfl, hfollows, hcounted⟩
  | work f =>
      have hother : Tracks (n.after now (.work f))
          { d with bench := f d.bench } :=
        ⟨congrArg f h.bench, h.clock, h.delay, h.selection, h.mode,
          h.switching, h.weight, h.dirty, h.deadline, h.text, h.shown⟩
      exact h.savesLike_nothing.inStep ⟨hother, h.awaits, rfl, rfl⟩ now
  | tick clock =>
      have hother : Tracks (n.after now (.tick clock))
          { d with clock := clock } :=
        ⟨h.bench, rfl, h.delay, h.selection, h.mode, h.switching, h.weight,
          h.dirty, h.deadline, h.text, h.shown⟩
      exact h.savesLike_nothing.inStep ⟨hother, h.awaits, rfl, rfl⟩ now

/-! ## Runs -/

/-- Interactions, one after the other, keep desk and notebook in step. -/
theorem Follows.turns (h : Follows n d) (is : List (Interaction × Nat)) :
    InStep d (d.turns is) (n.run is) := by
  induction is generalizing n d with
  | nil => exact ⟨rfl, h, .refl d⟩
  | cons i rest ih =>
      have hone := h.turn i
      have hrest := ih hone.follows
      refine ⟨?_, hrest.follows, hone.counted.trans hrest.counted⟩
      show (d.turn i).1 ++ ((d.turn i).2.turns rest).1
        = (n.turn i).1 ++ ((n.turn i).2.run rest).1
      rw [hone.attempts, hrest.attempts]

/-- A new editor follows the notebook that it begins with. -/
theorem Fresh.follows (h : Fresh d.editor) : Follows d.notebook d :=
  ⟨⟨rfl, rfl, rfl, rfl, rfl, h.switching, h.weight, h.dirty, h.deadline,
    (fun _ hx => nomatch hx), (fun _ hx => nomatch hx)⟩,
    h.rendering, h.heard⟩

/-- However a new editor is used, if it hears of every change at once, then
    between two interactions no change is expected, and it has saved exactly
    the groups of edits that have ended. -/
theorem saves_by_group (h : Fresh d.editor) (is : List (Interaction × Nat)) :
    (d.turns is).2.editor.rendering = false
      ∧ (d.turns is).1 = (d.notebook.run is).1
      ∧ Follows (d.notebook.run is).2 (d.turns is).2
      ∧ Counted d (d.turns is).2 (d.notebook.run is).1 := by
  have hall := h.follows.turns is
  exact ⟨hall.follows.rendering, hall.attempts, hall.follows, hall.counted⟩

/-- Two edits of a description are saved together, as another node is asked
    for; a blank text is not saved. -/
theorem saves_two_groups :
    let is : List (Interaction × Nat) :=
      [(.select (some "1"), 0), (.switchMode .description, 1),
        (.edit "on", 2), (.edit "one", 3), (.poll, 4), (.select none, 5),
        (.select (some "1"), 6), (.edit " ", 7), (.flush, 8)]
    Fresh beginning.editor
      ∧ (beginning.turns is).1
        = [⟨"1", .description, "one", .committed⟩,
          ⟨"1", .description, " ", .blank⟩] := by
  intro is
  have hfresh : Fresh beginning.editor := fresh_ofConfig {}
  obtain ⟨-, hattempts, -⟩ := saves_by_group hfresh is
  exact ⟨hfresh, hattempts.trans (by decide)⟩

end Desk
end NodeFlow
