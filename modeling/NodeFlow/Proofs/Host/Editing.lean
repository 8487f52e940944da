import NodeFlow.Host.Basic
import NodeFlow.Proofs.Editor.Groups

/-! # Editing without a window

    A host changes a side of a node by opening an editor, letting it show the
    node, typing over what is shown and saving that.  All of this comes to one
    operation on the workbench (`edit_eq_directly`): no text that is shown on
    the way is taken for an edit, and the text that is typed always is, even
    if it is the text that is shown. -/

namespace NodeFlow.Host

variable {h : Host} {id text : String} {mode : Mode} {r : Record}

/-- Change one side of a node on the workbench itself. -/
def directly (h : Host) (id : String) (mode : Mode) (text : String) :
    Except HostError Unit × Host :=
  match h.liveRecord? id with
  | none => (.error (.unknownNode id), h)
  | some r =>
      if Text.allBlank text then
        (.error
          (.invalidArgument text ("no " ++ mode.name ++ " change to save")), h)
      else
        match mode with
        | .outline =>
            match Structure.parse text with
            | .error e => (.error (.edit (.unreadable e)), h)
            | .ok s =>
                (.ok (),
                  { h with
                    bench :=
                      (h.bench.applyStructure id s.title s.inputs
                        s.outputs).2 })
        | .code =>
            (.ok (),
              { h with
                bench := (h.bench.setCode id text r.codeLanguage h.clock).2 })
        | .description =>
            (.ok (), { h with bench := (h.bench.setDescription id text).2 })

/-- Whether a text can be saved as a side of a node. -/
structure Acceptable (h : Host) (id : String) (mode : Mode) (text : String) :
    Prop where
  /-- There is a record that is not removed. -/
  record : (h.liveRecord? id).isSome = true
  /-- The text is not blank. -/
  visible : Text.allBlank text = false
  /-- Title and ports can be read. -/
  outline : mode = .outline → ∃ s, Structure.parse text = .ok s

/-! ## The editor of a host -/

/-- The notebook that the editor of a host begins with when it is to show a
    side of nodes. -/
def blankNotebook (h : Host) (mode : Mode) : Notebook :=
  { h.desk.notebook with mode := mode }

/-- Before a node is selected, another side is shown of none, and nothing is
    written to the surface. -/
theorem follows_switchMode (h : Host) (mode : Mode) :
    Desk.Follows (h.blankNotebook mode) (h.desk.switchMode mode) := by
  have hfresh : Desk.Fresh h.desk.editor :=
    Desk.fresh_ofConfig h.config.editor
  have hfollows : Desk.Follows h.desk.notebook h.desk := hfresh.follows
  by_cases hmode : mode = h.desk.editor.mode
  · subst hmode
    rw [Desk.switchMode, if_pos rfl]
    exact hfollows
  · have heq : h.desk.switchMode mode
        = h.desk.edit (fun e => { e with mode := mode }) := by
      rw [Desk.switchMode, if_neg hmode,
        Desk.flush_of_clean hfresh.dirty hfresh.deadline]
      rfl
    rw [heq]
    have hfresh' : Desk.Fresh
        (h.desk.edit (fun e => { e with mode := mode })).editor :=
      ⟨hfresh.dirty, hfresh.rendering, hfresh.switching, hfresh.deadline,
        hfresh.commits, hfresh.rejections, hfresh.weight, hfresh.heard⟩
    exact hfresh'.follows

/-- What is typed over a node that is shown is the only edit. -/
theorem follows_typeOver (hr : h.liveRecord? id = some r) (mode : Mode)
    (text : String) :
    Desk.Follows
      { h.blankNotebook mode with
        selection := some id
        group := [⟨id, mode, text, 0⟩] }
      (typeOver h.desk id mode text) := by
  -- what the selection writes is heard of before anything is typed
  have hshown :=
    ((h.follows_switchMode mode).inStep_select (some id) 0).follows
  have hselected : ((h.blankNotebook mode).turn (.select (some id), 0)).2
      = { h.blankNotebook mode with selection := some id } := by
    have hlive : (h.bench.liveRecord? id).isSome = true := by
      have hr' : h.bench.liveRecord? id = some r := hr
      rw [hr']
      rfl
    rw [Desk.turn_of_ends rfl, Desk.close_of_nil rfl]
    simp [Notebook.after, blankNotebook, Desk.notebook, desk, Editor.ofConfig,
      hlive]
  rw [hselected] at hshown
  exact (hshown.edit text 0).1

/-- What the editor saves in the end. -/
theorem flush_typeOver (hr : h.liveRecord? id = some r) (mode : Mode)
    (text : String) :
    let saved := h.bench.save h.clock id mode text
    (typeOver h.desk id mode text).flush.1 = saved.1
      ∧ (typeOver h.desk id mode text).flush.2.bench = saved.2 := by
  intro saved
  have hsaves := (follows_typeOver hr mode text).flush
  refine ⟨?_, hsaves.follows.bench⟩
  have hattempts : (typeOver h.desk id mode text).attempted
      (typeOver h.desk id mode text).flush.1 = [⟨id, mode, text, saved.1⟩] :=
    hsaves.attempts
  unfold Desk.attempted at hattempts
  split at hattempts
  · cases hattempts
  · cases hattempts
  · exact (SaveAttempt.mk.inj (List.cons.inj hattempts).1).2.2.2

/-- A save is judged as the operation on the workbench is. -/
theorem directly_eq (hr : h.liveRecord? id = some r) :
    let saved := h.bench.save h.clock id mode text
    h.directly id mode text
      = (verdict mode text saved.1, { h with bench := saved.2 }) := by
  have hr' : h.bench.liveRecord? id = some r := hr
  unfold directly Workbench.save
  rw [hr, hr']
  simp only
  split
  · rfl
  · cases mode with
    | outline =>
        cases Structure.parse text with
        | error e => rfl
        | ok s => rfl
    | code => rfl
    | description => rfl

/-- The editor comes to the same as the operation on the workbench. -/
theorem edit_eq (h : Host) (id : String) (mode : Mode) (text : String) :
    h.edit id mode text = h.directly id mode text := by
  cases hr : h.liveRecord? id with
  | none =>
      unfold edit directly
      rw [hr]
  | some r =>
      obtain ⟨houtcome, hbench⟩ := flush_typeOver hr mode text
      rw [directly_eq hr, ← houtcome, ← hbench]
      unfold edit
      rw [hr]

/-! ## What the operation does -/

theorem directly_ok_iff :
    (h.directly id mode text).1 = .ok () ↔ h.Acceptable id mode text := by
  have hiff : (h.directly id mode text).1 = .ok () ↔
      (h.liveRecord? id).isSome = true ∧ Text.allBlank text = false
        ∧ (mode = .outline → ∃ s, Structure.parse text = .ok s) := by
    unfold directly
    cases h.liveRecord? id with
    | none => simp
    | some r =>
        cases Text.allBlank text with
        | true => simp
        | false =>
            cases mode with
            | outline => cases Structure.parse text <;> simp
            | code => simp
            | description => simp
  exact hiff.trans
    ⟨fun ⟨hrecord, htext, hout⟩ => ⟨hrecord, htext, hout⟩,
      fun ha => ⟨ha.record, ha.visible, ha.outline⟩⟩

theorem directly_of_error {e : HostError}
    (he : (h.directly id mode text).1 = .error e) :
    (h.directly id mode text).2 = h := by
  unfold directly at he ⊢
  cases hr : h.liveRecord? id with
  | none => rfl
  | some r =>
      cases hblank : Text.allBlank text with
      | true => simp
      | false =>
          cases mode with
          | outline =>
              cases hs : Structure.parse text with
              | error x => simp
              | ok s => simp [hr, hblank, hs] at he
          | code => simp [hr, hblank] at he
          | description => simp [hr, hblank] at he

/-- Whatever a host holds, and whatever its editor shows of a node, an edit
    comes to the operation on the workbench: it succeeds for the texts that
    can be saved, changes nothing if it is refused, and is never left without
    an edit to save. -/
theorem edit_eq_directly (h : Host) (id : String) (mode : Mode)
    (text : String) :
    h.edit id mode text = h.directly id mode text
      ∧ ((h.edit id mode text).1 = .ok () ↔ h.Acceptable id mode text)
      ∧ (∀ e, (h.edit id mode text).1 = .error e →
          (h.edit id mode text).2 = h)
      ∧ ((h.liveRecord? id).isSome = true →
          (typeOver h.desk id mode text).flush.1 ≠ .nothing) := by
  rw [edit_eq]
  refine ⟨rfl, directly_ok_iff, fun e => directly_of_error, fun hlive => ?_⟩
  obtain ⟨r, hr⟩ := Option.isSome_iff_exists.mp hlive
  rw [(flush_typeOver hr mode text).1]
  exact Desk.save_ne_nothing _ _ _ _ _

end NodeFlow.Host
