import NodeFlow.Proofs.Editor.Canonical
import NodeFlow.Proofs.Editor.Commits

/-! # Saving what the editor shows

    Title and ports of a record are shown as a text, and the user may save
    that text as it is.  If it is read back as what it shows, the record is
    left with its title and its ports, but without what the text does not
    show: the ports have lost their options, and of the dynamic inputs those
    that have the name of a static one are gone (`commit_of_own_view`).  So a
    record stays as it is exactly if no static port of it has options and no
    input of it is there twice (`Record.resaved_eq_self_iff`). -/

namespace NodeFlow

/-- Name and type of a port, which is what a text says of it. -/
def Port.label (p : Port) : String × String := (p.name, p.type)

/-- The dynamic inputs of a record that do not have the name of a static
    one. -/
def Record.unshadowed (r : Record) : List Port :=
  r.dynamicInputs.filter (fun d => !r.inputs.any (fun p => p.name == d.name))

/-- Whether the text that shows title and ports of a record is read back as
    this title and ports of these names and types. -/
structure Record.ReadsBack (r : Record) (s : Structure) : Prop where
  /-- The text is read. -/
  parse : Structure.parse (r.viewText .outline) = .ok s
  /-- The title is read back. -/
  title : s.title = r.title
  /-- So are the inputs. -/
  inputs : s.inputs.map Port.label = r.inputs.map Port.label
  /-- So are the outputs. -/
  outputs : s.outputs.map Port.label = r.outputs.map Port.label

/-- What is left of a record to which its own text is saved. -/
def Record.resaved (r : Record) : Record :=
  { r with
    inputs := r.inputs.map Port.bare
    outputs := r.outputs.map Port.bare
    dynamicInputs := r.unshadowed }

/-- Whether an editor, asked or told something, makes an attempt to save to a
    record the very text that shows title and ports of it. -/
structure Desk.SavesView (d : Desk) (p : Prompt) (id : String) (r : Record) :
    Prop where
  /-- There is an attempt to save. -/
  attempt : d.attemptOf p ≠ .nothing
  /-- The record is selected. -/
  selection : d.editor.selection = some id
  /-- Title and ports are shown. -/
  mode : d.editor.mode = .outline
  /-- The record is there and not removed. -/
  record : d.liveRecord? id = some r
  /-- The text is the one that shows them. -/
  text : d.editor.surface.text = r.viewText .outline

namespace Structure

/-- The text of a structure is never blank. -/
theorem allBlank_render (s : Structure) : Text.allBlank s.render = false := by
  have ht : 't' ∈ s.render.toList := by
    unfold render renderLines
    simp
  rw [Text.allBlank, List.all_eq_false]
  exact ⟨'t', ht, by decide⟩

end Structure

variable {r : Record} {s : Structure}

/-- Ports without options that have the names and types of other ports are
    those ports without options. -/
theorem map_bare_of_label {ps qs : List Port}
    (h : qs.map Port.label = ps.map Port.label)
    (hqs : ∀ q ∈ qs, q.extra = none) : qs = ps.map Port.bare := by
  -- what is left of a port without options is its label
  have hbare : ∀ l : List Port, l.map Port.bare
      = (l.map Port.label).map (fun e => ⟨e.1, e.2, none⟩) := by
    intro l
    rw [List.map_map]
    rfl
  have hself : qs.map Port.bare = qs := by
    rw [List.map_congr_left (g := id) (fun q hq => ?_), List.map_id]
    unfold Port.bare
    rw [← hqs q hq]
    rfl
  calc qs = qs.map Port.bare := hself.symm
    _ = ps.map Port.bare := by rw [hbare, hbare, h]

/-- Whether an input has a name depends on the labels only. -/
theorem any_name_of_label {ps qs : List Port}
    (h : ps.map Port.label = qs.map Port.label) (name : String) :
    ps.any (fun p => p.name == name) = qs.any (fun q => q.name == name) := by
  have hany : ∀ l : List Port, l.any (fun p => p.name == name)
      = (l.map Port.label).any (fun e => e.1 == name) := by
    intro l
    rw [List.any_map]
    rfl
  rw [hany ps, hany qs, h]

/-- What is left of a record when it is given the title and ports that its
    own text is read as. -/
theorem Record.ReadsBack.restructured_eq (h : r.ReadsBack s) :
    Registry.restructured s.title s.inputs s.outputs r = r.resaved := by
  obtain ⟨hins, houts⟩ := Structure.extra_of_parse h.parse
  have hdynamic : r.dynamicInputs.filter
      (fun d => !s.inputs.any (fun p => p.name == d.name)) = r.unshadowed := by
    unfold unshadowed
    refine List.filter_congr (fun d _ => ?_)
    rw [any_name_of_label h.inputs]
  unfold Registry.restructured resaved
  rw [hdynamic, h.title, map_bare_of_label h.inputs hins,
    map_bare_of_label h.outputs houts]

/-- Ports are the same without options exactly if they have none. -/
theorem map_bare_eq_self_iff {ps : List Port} :
    ps.map Port.bare = ps ↔ ∀ p ∈ ps, p.extra = none := by
  constructor
  · intro h p hp
    rw [← h] at hp
    obtain ⟨q, -, rfl⟩ := List.mem_map.mp hp
    rfl
  · exact fun h => (map_bare_of_label rfl h).symm

/-- No dynamic input goes exactly if none has the name of a static one. -/
theorem Record.unshadowed_eq_self_iff (r : Record) :
    r.unshadowed = r.dynamicInputs
      ↔ ∀ d ∈ r.dynamicInputs, ∀ p ∈ r.inputs, d.name ≠ p.name := by
  unfold unshadowed
  rw [List.filter_eq_self]
  refine forall₂_congr (fun d _ => ?_)
  simp only [Bool.not_eq_true', List.any_eq_false, beq_iff_eq]
  exact forall₂_congr (fun p _ => ne_comm)

/-- A record stays as it is exactly if its static ports have no options and
    its dynamic inputs have names of their own. -/
theorem Record.resaved_eq_self_iff (r : Record) :
    r.resaved = r ↔ (∀ p ∈ r.inputs ++ r.outputs, p.extra = none)
      ∧ ∀ d ∈ r.dynamicInputs, ∀ p ∈ r.inputs, d.name ≠ p.name := by
  rw [← r.unshadowed_eq_self_iff, List.forall_mem_append,
    ← map_bare_eq_self_iff, ← map_bare_eq_self_iff]
  constructor
  · intro h
    exact ⟨⟨congrArg Record.inputs h, congrArg Record.outputs h⟩,
      congrArg Record.dynamicInputs h⟩
  · rintro ⟨⟨hins, houts⟩, hdynamic⟩
    unfold resaved
    rw [hins, houts, hdynamic]

/-- A text that shows a record is saved to it, and leaves what it says. -/
theorem Workbench.save_own_view {w : Workbench} {id : String}
    (hx : w.liveRecord? id = some r) (h : r.ReadsBack s) (clock : Timestamp) :
    (w.save clock id .outline (r.viewText .outline)).1 = .committed
      ∧ (w.save clock id .outline (r.viewText .outline)).2.liveRecord? id
        = some r.resaved := by
  have hblank : Text.allBlank (r.viewText .outline) = false :=
    Structure.allBlank_render r.outline
  have hsave : w.save clock id .outline (r.viewText .outline)
      = (.committed, (w.applyStructure id s.title s.inputs s.outputs).2) := by
    unfold Workbench.save
    simp only [hblank, Bool.false_eq_true, if_false, hx, h.parse]
  obtain ⟨hrec, hlive⟩ := Option.filter_eq_some_iff.mp hx
  obtain ⟨g, -, heq⟩ := applyStructure_of_some hrec s.title s.inputs s.outputs
  refine ⟨by rw [hsave], ?_⟩
  rw [hsave, heq, h.restructured_eq]
  unfold Workbench.liveRecord? Registry.record?
  rw [Table.get?_insert, if_pos rfl]
  -- saving a text does not remove the record
  exact Option.filter_eq_some_iff.mpr ⟨rfl, hlive⟩

namespace Desk

/-- Whatever a new editor has been asked and told, and whatever else has
    happened, an attempt to save the text that shows a record and is read
    back succeeds, and leaves the record without options of its static ports
    and without the dynamic inputs that have the name of a static one.  So the
    record is the one that it was exactly if there are none of these. -/
theorem commit_of_own_view (config : EditorConfig) (w : Workbench)
    (surface : Surface) (clock : Timestamp) (notes : List String)
    (hs : List Happening) (p : Prompt) (id : String)
    (h : ((opened config w surface clock notes).happenAll hs).SavesView p id r)
    (hr : r.ReadsBack s) :
    let d := (opened config w surface clock notes).happenAll hs
    d.attemptOf p = .committed
      ∧ (d.prompted p).liveRecord? id = some r.resaved
      ∧ ((d.prompted p).liveRecord? id = some r ↔
        (∀ q ∈ r.inputs ++ r.outputs, q.extra = none)
          ∧ ∀ i ∈ r.dynamicInputs, ∀ q ∈ r.inputs, i.name ≠ q.name) := by
  intro d
  have hnew : Attended (opened config w surface clock notes) :=
    .new config w surface clock notes
  have hsteady := (attended_happenAll hnew hs).steady
  rcases (hsteady.attempted_prompted p).saved with
    ⟨hnone, -⟩ | ⟨-, i, hi, hsave⟩
  · exact absurd hnone h.attempt
  · -- the attempt is that of the selected record in the mode that is shown
    cases hi.symm.trans h.selection
    rw [h.mode, h.text] at hsave
    have houtcome := congrArg Prod.fst hsave
    have hbench := congrArg Prod.snd hsave
    obtain ⟨hcommitted, hrecord⟩ :=
      Workbench.save_own_view (w := d.bench) h.record hr d.clock
    rw [← hbench] at hrecord
    refine ⟨houtcome.trans hcommitted, hrecord, ?_⟩
    rw [show (d.prompted p).liveRecord? id = some r.resaved from hrecord,
      Option.some.injEq, r.resaved_eq_self_iff]

/-- The workbench with one record that has been read. -/
def loaded (r : Record) : Workbench :=
  (Workbench.configure {}
    { graph := ({} : Graph).toJson
      nodes := [r] }).2

/-- A record is selected and shown, and the text that shows it is edited
    without being changed. -/
def reviewing (r : Record) : List Happening :=
  [.prompt (.command 0 (.select (some r.id))),
    .prompt (.command 0 .contentChanged),
    .disturbed (loaded r) { text := r.viewText .outline } default,
    .prompt (.command 1 .contentChanged)]

/-- A node with a label on an input, and with another input that was added at
    run time, keeps both inputs but not the label when its text is saved as it
    is. -/
theorem commit_of_own_view_sum :
    let r : Record :=
      { id := "1"
        nodeType := "math/sum"
        title := "Sum"
        inputs := [⟨"a", "number", some (.obj [("label", .str "A")])⟩]
        outputs := [⟨"sum", "array(number)", none⟩]
        dynamicInputs := [⟨"b", "number", none⟩] }
    let s : Structure := ⟨"Sum", [⟨"a", "number", none⟩], r.outputs⟩
    let d := (opened {} (loaded r) {} default []).happenAll (reviewing r)
    let p : Prompt := .command 2 .flush
    d.SavesView p "1" r ∧ r.ReadsBack s
      ∧ d.attemptOf p = .committed
      ∧ (d.prompted p).liveRecord? "1" = some r.resaved
      ∧ ((d.prompted p).liveRecord? "1" = some r ↔
        (∀ q ∈ r.inputs ++ r.outputs, q.extra = none)
          ∧ ∀ i ∈ r.dynamicInputs, ∀ q ∈ r.inputs, i.name ≠ q.name) := by
  intro r s d p
  have hd : d.SavesView p "1" r :=
    ⟨by decide +kernel, by decide +kernel, by decide +kernel,
      by decide +kernel, by decide +kernel⟩
  have hr : r.ReadsBack s := ⟨by decide +kernel, rfl, rfl, rfl⟩
  exact ⟨hd, hr, commit_of_own_view {} (loaded r) {} default [] (reviewing r) p
    "1" hd hr⟩

/-- A record does not always stay as it is when the text that shows it is
    saved, even if its dynamic inputs have names of their own: an input loses
    its label. -/
theorem not_always_unchanged :
    ¬ ∀ (config : EditorConfig) (w : Workbench) (surface : Surface)
      (clock : Timestamp) (notes : List String) (hs : List Happening)
      (p : Prompt) (id : String) (r : Record) (s : Structure),
      let d := (opened config w surface clock notes).happenAll hs
      d.SavesView p id r → r.ReadsBack s → r.Distinct →
        (d.prompted p).liveRecord? id = some r := by
  intro hall
  let r : Record :=
    { id := "1"
      nodeType := "math/sum"
      title := "Sum"
      inputs := [⟨"a", "number", some (.obj [("label", .str "A")])⟩] }
  have hdistinct : r.Distinct := ⟨by simp [r], by simp [r]⟩
  have hkept := hall {} (loaded r) {} default [] (reviewing r)
    (.command 2 .flush) "1" r ⟨"Sum", [⟨"a", "number", none⟩], []⟩
    ⟨by decide +kernel, by decide +kernel, by decide +kernel,
      by decide +kernel, by decide +kernel⟩
    ⟨by decide +kernel, rfl, rfl, rfl⟩ hdistinct
  exact absurd hkept (by decide +kernel)

end Desk
end NodeFlow
