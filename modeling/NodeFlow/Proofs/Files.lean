import NodeFlow.Files.Tree
import NodeFlow.Proofs.Table

/-! # Reading a file that was written

    A path that a text can be written to leads to a file, or to a place that
    is vacant.  The directories on the way there stay when the file is put
    there, and so the same path leads to the file then (`read_of_write`). -/

namespace NodeFlow

/-- What splits into parts of which the last is empty, is empty or ends in
    the separator. -/
theorem getLast?_of_splitOn {α : Type} [BEq α] [LawfulBEq α] {x : α}
    {l : List α} (hl : l ≠ []) (h : (l.splitOn x).getLast? = some []) :
    l.getLast? = some x := by
  induction l with
  | nil => exact absurd rfl hl
  | cons a rest ih =>
      rw [List.splitOn_cons_eq_if_modifyHead] at h
      obtain ⟨part, parts, hparts⟩ :=
        List.exists_cons_of_ne_nil (List.splitOn_ne_nil x rest)
      cases rest with
      | nil =>
          by_cases hax : a == x
          · rw [beq_iff_eq.mp hax]
            rfl
          · simp [hax] at h
      | cons b rest =>
          rw [List.getLast?_cons_cons]
          refine ih (by simp) ?_
          rw [hparts] at h ⊢
          split at h
          · rwa [List.getLast?_cons_cons] at h
          · -- the first part has got longer, and so is not the last one
            cases parts with
            | nil => simp at h
            | cons next parts =>
                rw [List.modifyHead_cons, List.getLast?_cons_cons] at h
                rwa [List.getLast?_cons_cons]

namespace FilePath

/-- The last part of a path that does not end in a slash names something. -/
theorem getLast?_parts_ne {path : String} (hne : path.isEmpty = false)
    (h : endsInSlash path = false) : (parts path).getLast? ≠ some "" := by
  intro hlast
  unfold parts at hlast
  rw [List.getLast?_map, Option.map_eq_some_iff] at hlast
  obtain ⟨part, hpart, hempty⟩ := hlast
  have hnil : part = [] := by simpa using congrArg String.toList hempty
  have hpath : path.toList ≠ [] := by
    intro hnil
    rw [String.toList_eq_nil_iff] at hnil
    simp [hnil] at hne
  have hslash := getLast?_of_splitOn hpath (hnil ▸ hpart)
  obtain ⟨before, hbefore⟩ := List.getLast?_eq_some_iff.mp hslash
  have hends : endsInSlash path = true := by
    unfold endsInSlash
    rw [String.endsWith_eq_endsWith_toSlice, String.Slice.endsWith_string_iff]
    simp [hbefore]
  rw [h] at hends
  cases hends

end FilePath

namespace FileTree

variable {t t' : FileTree} {way d : Way} {p : Place} {parts : List String}
  {path text : String}

/-- The way to the file at a place, or to where a file can be. -/
def Place.fileWay? : Place → Option Way
  | .file way _ | .raw way _ | .vacant way => some way
  | .directory _ => none

theorem entry?_put (t : FileTree) (e : FileEntry) (hway : way ≠ []) :
    entry? (t.put way e) way = some e := by
  unfold entry? put
  simp [hway, Table.get?_insert]

/-- A directory stays where something is put in place of no directory. -/
theorem entry?_put_directory (e : FileEntry)
    (hway : t.entry? way ≠ some .directory)
    (hd : t.entry? d = some .directory) :
    entry? (t.put way e) d = some .directory := by
  unfold entry? put at *
  cases hdir : d.isEmpty with
  | true => rfl
  | false =>
      simp only [hdir, Bool.false_eq_true, if_false] at hd ⊢
      rw [Table.get?_insert]
      split
      · rename_i heq
        rw [heq] at hd
        split at hway
        · exact absurd rfl hway
        · exact absurd hd hway
      · exact hd

/-- A walk ends where there is no directory. -/
theorem eq_nil_of_walk_placeOf (hway : t.entry? way ≠ some .directory)
    (hw : t.walk (t.placeOf way) parts = .ok p)
    (hlast : ∀ w, p = .vacant w → parts.getLast? ≠ some "") : parts = [] := by
  cases parts with
  | nil => rfl
  | cons part rest =>
      exfalso
      cases he : t.entry? way with
      | none =>
          simp only [placeOf, he, walk] at hw
          split at hw
          · -- empty names may follow a vacant place, but not up to the end
            rename_i hempty
            cases hw
            refine hlast way rfl ?_
            rw [List.getLast?_eq_some_getLast (List.cons_ne_nil part rest)]
            have hin := List.all_eq_true.mp hempty _
              (List.getLast_mem (List.cons_ne_nil part rest))
            exact congrArg some (beq_iff_eq.mp hin)
          · cases hw
      | some e =>
          cases e with
          | file text => simp only [placeOf, he, walk, reduceCtorEq] at hw
          | raw octets => simp only [placeOf, he, walk, reduceCtorEq] at hw
          | directory => exact hway he

theorem fileWay?_placeOf (h : (t.placeOf d).fileWay? = some way) : way = d := by
  unfold placeOf at h
  cases he : t.entry? d with
  | none =>
      rw [he] at h
      cases h
      rfl
  | some e =>
      rw [he] at h
      cases e <;> cases h <;> rfl

/-- What is put where a walk along a path ends, is where the same walk ends
    then. -/
theorem walk_put (text : String) (hw : t.walk (.directory d) parts = .ok p)
    (hp : p.fileWay? = some way)
    (hlast : ∀ w, p = .vacant w → parts.getLast? ≠ some "") :
    t.entry? way ≠ some .directory
      ∧ (t.put way (.file text)).walk (.directory d) parts
        = .ok (.file way text) := by
  induction parts generalizing d with
  | nil =>
      cases hw
      cases hp
  | cons part rest ih =>
      have hrest : ∀ w, p = .vacant w → rest.getLast? ≠ some "" := by
        intro w hvacant
        cases rest with
        | nil => simp
        | cons b rest =>
            rw [← List.getLast?_cons_cons (a := part)]
            exact hlast w hvacant
      unfold walk at hw ⊢
      split at hw
      · rename_i hstay
        rw [if_pos hstay]
        exact ih hw hrest
      rename_i hstay
      rw [if_neg hstay]
      split at hw
      · rename_i hup
        rw [if_pos hup]
        exact ih hw hrest
      rename_i hup
      rw [if_neg hup]
      split at hw
      · cases hw
      rename_i hshort
      rw [if_neg hshort]
      by_cases hdir : t.entry? (d ++ [part]) = some .directory
      · -- the walk goes on in a directory, which stays one
        have hplace : t.placeOf (d ++ [part]) = .directory (d ++ [part]) := by
          unfold placeOf
          rw [hdir]
        rw [hplace] at hw
        obtain ⟨hway, hput⟩ := ih hw hrest
        refine ⟨hway, ?_⟩
        have hkept : (t.put way (.file text)).placeOf (d ++ [part])
            = .directory (d ++ [part]) := by
          unfold placeOf
          rw [entry?_put_directory _ hway hdir]
        rw [hkept]
        exact hput
      · -- the walk ends, and the file is put there
        have hend := eq_nil_of_walk_placeOf hdir hw hrest
        subst hend
        cases hw
        have hway := fileWay?_placeOf hp
        subst hway
        refine ⟨hdir, ?_⟩
        unfold walk placeOf
        rw [entry?_put t _ (by simp)]

/-- What is put where a path leads, is where the path leads then. -/
theorem locate_put (text : String) (hp : t.locate path = .ok p)
    (hway : p.fileWay? = some way)
    (hslash : ∀ w, p = .vacant w → FilePath.endsInSlash path = false) :
    (t.put way (.file text)).locate path = .ok (.file way text) := by
  unfold locate at hp ⊢
  cases hempty : path.isEmpty with
  | true =>
      rw [if_pos hempty] at hp
      cases hp
  | false =>
      simp only [hempty, Bool.false_eq_true, if_false] at hp ⊢
      split at hp
      · cases hp
      split at hp
      · -- nothing but the top can be reached from the root
        split at hp
        · cases hp
          cases hway
        · cases hp
      · rename_i hrelative
        rw [if_neg hrelative]
        exact (walk_put text hp hway
          (fun w hw => FilePath.getLast?_parts_ne hempty (hslash w hw))).2

/-- Where a text can be written, does not depend on the text, and it can be
    read there. -/
theorem read_of_write (h : t.write path text = .ok t') (text' : String) :
    ∃ t'', t.write path text' = .ok t'' ∧ t''.read path = .ok text' := by
  have hfile : ∃ p way, t.locate path = .ok p ∧ p.fileWay? = some way
      ∧ (∀ w, p = .vacant w → FilePath.endsInSlash path = false)
      ∧ t.write path text' = .ok (t.put way (.file text')) := by
    -- a file can be written where there is one, and where nothing stands in
    -- the way of a new one
    unfold write at h ⊢
    split at h
    · rename_i way old hp
      exact ⟨_, way, hp, rfl, by simp, by simp⟩
    · rename_i way old hp
      exact ⟨_, way, hp, rfl, by simp, by simp⟩
    · cases h
    · rename_i way hp
      split at h
      · cases h
      · rename_i hslash
        have hslash := Bool.eq_false_iff.mpr hslash
        exact ⟨_, way, hp, rfl, fun _ _ => hslash, by simp [hslash]⟩
    · cases h
  obtain ⟨p, way, hp, hway, hslash, hwrite⟩ := hfile
  refine ⟨_, hwrite, ?_⟩
  unfold read
  rw [locate_put text' hp hway hslash]

theorem run_read (t : FileTree) (path : String) :
    (Files.read path : StateM FileTree _).run t = pure (t.read path, t) := by
  rfl

/-- A change that is not faulty is made. -/
theorem run_change {f : FileTree → Except FileFault FileTree}
    (h : f t = .ok t') : (change f).run t = pure (.ok (), t') := by
  show change f t = _
  simp only [change, h]
  rfl

theorem run_write (h : t.write path text = .ok t') :
    (Files.write path text : StateM FileTree _).run t = pure (.ok (), t') :=
  run_change h

theorem run_makeDirs (h : t.makeDirs path = .ok t') :
    (Files.makeDirs path : StateM FileTree _).run t = pure (.ok (), t') :=
  run_change h

end FileTree
end NodeFlow
