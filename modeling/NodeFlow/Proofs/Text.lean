import Mathlib.Data.List.DropRight
import Mathlib.Data.List.TakeWhile
import Mathlib.Tactic.SplitIfs
import NodeFlow.Text.Blank
import NodeFlow.Text.Lines
import NodeFlow.Text.Utf8

/-! # Trimmed texts, their lines and their order

    Trimming leaves a part of a text that has no blank at either end, and
    leaves a text alone that is so already.  Texts without line feeds, joined
    by line feeds, are the lines of what they are joined to.  Texts sort like
    the octets that they travel as. -/

namespace NodeFlow.Text

/-! ## Trimming -/

/-- Whether a text neither starts nor ends with a blank. -/
def Unpadded (cs : List Char) : Prop :=
  (∀ c, cs.head? = some c → isBlank c = false) ∧
    ∀ c, cs.getLast? = some c → isBlank c = false

/-- Whether a text can stand on one line as it is: it has no line feed and no
    blank at its ends. -/
def Inline (cs : List Char) : Prop := '\n' ∉ cs ∧ Unpadded cs

variable {cs : List Char} {c : Char}

/-- Trimming the end keeps what is before it. -/
theorem prefix_trimEndChars (cs : List Char) : trimEndChars cs <+: cs :=
  List.rdropWhile_prefix isBlank cs

/-- Characters that do not end with a blank stay as they are. -/
theorem trimEndChars_eq_self
    (h : ∀ c, cs.getLast? = some c → isBlank c = false) :
    trimEndChars cs = cs := by
  refine List.rdropWhile_eq_self_iff.mpr (fun hne => ?_)
  simp [h _ (List.getLast?_eq_getLast_of_ne_nil hne)]

/-- What has been trimmed does not end with a blank. -/
theorem isBlank_of_getLast?_trimEndChars
    (h : (trimEndChars cs).getLast? = some c) : isBlank c = false := by
  have hne : trimEndChars cs ≠ [] := by
    rintro hnil
    simp [hnil] at h
  have hnot : ¬ isBlank ((trimEndChars cs).getLast hne) = true :=
    List.rdropWhile_last_not isBlank cs hne
  rw [List.getLast?_eq_getLast_of_ne_nil hne, Option.some.injEq] at h
  simpa [h] using hnot

/-- Trimming keeps the middle. -/
theorem infix_trimChars (cs : List Char) : trimChars cs <:+: cs :=
  (prefix_trimEndChars _).isInfix.trans (List.dropWhile_suffix isBlank).isInfix

/-- Characters without a blank at either end stay as they are. -/
theorem trimChars_eq_self (h : Unpadded cs) : trimChars cs = cs := by
  have hstart : cs.dropWhile isBlank = cs := by
    cases cs with
    | nil => rfl
    | cons c rest => simp [h.1 c rfl]
  rw [trimChars, hstart, trimEndChars_eq_self h.2]

/-- What has been trimmed has no blank at either end. -/
theorem unpadded_trimChars (cs : List Char) : Unpadded (trimChars cs) := by
  refine ⟨fun c hc => ?_, fun c hc => isBlank_of_getLast?_trimEndChars hc⟩
  -- what is left at the end starts as the text without its first blanks
  have hhead : (cs.dropWhile isBlank).head? = some c := by
    obtain ⟨rest, hrest⟩ := prefix_trimEndChars (cs.dropWhile isBlank)
    rw [← hrest, List.head?_append_of_ne_nil]
    · exact hc
    · rintro hnil
      simp [trimChars, hnil] at hc
  have hnot := List.head?_dropWhile_not isBlank cs
  rw [hhead] at hnot
  exact hnot

/-- A part of a line is inline once it is trimmed. -/
theorem inline_trimChars {line : List Char} (hline : '\n' ∉ line)
    (h : cs <:+: line) : Inline (trimChars cs) :=
  ⟨fun hmem => hline (h.subset ((infix_trimChars cs).subset hmem)),
    unpadded_trimChars cs⟩

/-! ## Lines -/

/-- Without a line break there is one stretch. -/
theorem stretches_of_not_mem (h : '\n' ∉ cs) : stretches cs = [cs] := by
  induction cs with
  | nil => rfl
  | cons c rest ih =>
      obtain ⟨hc, hrest⟩ := not_or.mp (mt List.mem_cons.mpr h)
      rw [stretches, if_neg (Ne.symm hc), ih hrest]

/-- No stretch has a line break in it. -/
theorem not_mem_of_mem_stretches {s : List Char} (h : s ∈ stretches cs) :
    '\n' ∉ s := by
  induction cs generalizing s with
  | nil => simp_all [stretches]
  | cons c rest ih =>
      rw [stretches] at h
      split at h
      · rcases List.mem_cons.mp h with rfl | h
        · exact List.not_mem_nil
        · exact ih h
      · rename_i hc
        split at h
        · rename_i hnil
          exact absurd hnil (stretches_ne_nil rest)
        · rename_i first more hfirst
          rcases List.mem_cons.mp h with rfl | h
          · have hnot := ih (s := first) (by simp [hfirst])
            simp [hnot, Ne.symm hc]
          · refine ih ?_
            rw [hfirst]
            exact List.mem_cons_of_mem _ h

/-- The characters of a stretch are among those of the text. -/
theorem subset_of_mem_stretches {s : List Char} (h : s ∈ stretches cs) :
    s ⊆ cs := by
  induction cs generalizing s with
  | nil => simp_all [stretches]
  | cons c rest ih =>
      rw [stretches] at h
      split at h
      · rcases List.mem_cons.mp h with rfl | h
        · exact List.nil_subset _
        · exact List.subset_cons_of_subset _ (ih h)
      · split at h
        · rename_i hnil
          exact absurd hnil (stretches_ne_nil rest)
        · rename_i first more hfirst
          rw [hfirst] at ih
          rcases List.mem_cons.mp h with rfl | h
          · exact List.cons_subset_cons _ (ih (List.mem_cons_self ..))
          · exact List.subset_cons_of_subset _ (ih (List.mem_cons_of_mem _ h))

/-- A line is a stretch, or most of one. -/
theorem exists_stretch_of_mem_charLines {line : List Char}
    (h : line ∈ charLines cs) : ∃ s ∈ stretches cs, line ⊆ s := by
  rcases List.mem_append.mp h with h | h
  · obtain ⟨s, hs, rfl⟩ := List.mem_map.mp h
    refine ⟨s, List.dropLast_subset _ hs, ?_⟩
    unfold dropReturn
    split
    · exact List.dropLast_subset s
    · exact List.Subset.refl s
  · split at h
    · cases h
    · obtain rfl := List.mem_singleton.mp h
      rw [List.getLastD_eq_getLast?,
        List.getLast?_eq_getLast_of_ne_nil (stretches_ne_nil cs)]
      exact ⟨_, List.getLast_mem (stretches_ne_nil cs), List.Subset.refl _⟩

/-- No line has a line break in it. -/
theorem not_mem_of_mem_charLines {line : List Char} (h : line ∈ charLines cs) :
    '\n' ∉ line := by
  obtain ⟨s, hs, hsubset⟩ := exists_stretch_of_mem_charLines h
  exact fun hmem => not_mem_of_mem_stretches hs (hsubset hmem)

/-- The characters of a line are among those of the text. -/
theorem subset_of_mem_charLines {line : List Char} (h : line ∈ charLines cs) :
    line ⊆ cs := by
  obtain ⟨s, hs, hsubset⟩ := exists_stretch_of_mem_charLines h
  exact List.Subset.trans hsubset (subset_of_mem_stretches hs)

/-- Stretches with line breaks between them are taken apart again. -/
theorem stretches_intercalate {ls : List (List Char)} (hne : ls ≠ [])
    (h : ∀ l ∈ ls, '\n' ∉ l) : stretches (['\n'].intercalate ls) = ls := by
  induction ls with
  | nil => exact absurd rfl hne
  | cons l rest ih =>
      obtain ⟨hl, hrest⟩ := List.forall_mem_cons.mp h
      cases rest with
      | nil => rw [List.intercalate_singleton, stretches_of_not_mem hl]
      | cons l' rest =>
          rw [List.intercalate_cons_cons, List.append_assoc,
            List.singleton_append, stretches_append_newline,
            stretches_of_not_mem hl, ih (List.cons_ne_nil _ _) hrest,
            List.singleton_append]

/-- A line feed ends the lines before it, and others start after it. -/
theorem charLines_append_newline (cs rest : List Char) :
    charLines (cs ++ '\n' :: rest)
      = (stretches cs).map dropReturn ++ charLines rest := by
  have hne := stretches_ne_nil rest
  simp only [charLines, stretches_append_newline,
    List.dropLast_append_of_ne_nil hne, List.map_append, List.append_assoc,
    List.getLastD_eq_getLast?, List.getLast?_append_of_ne_nil _ hne]

/-- Whether a text is read back as one line from among others. -/
structure Whole (cs : List Char) : Prop where
  /-- It is not more than one. -/
  one : '\n' ∉ cs
  /-- It is not passed over where it comes last. -/
  ne_nil : cs ≠ []
  /-- It is not taken to end earlier. -/
  kept : cs.getLast? ≠ some '\r'

/-- Lines that are joined are read back. -/
theorem charLines_intercalate {ls : List (List Char)}
    (h : ∀ l ∈ ls, Whole l) : charLines (['\n'].intercalate ls) = ls := by
  rcases List.eq_nil_or_concat' ls with rfl | ⟨init, last, rfl⟩
  · rfl
  · have hsplit := stretches_intercalate (by simp) (fun l hl => (h l hl).one)
    have hmap : init.map dropReturn = init := by
      rw [List.map_congr_left (fun l hl => ?_), List.map_id']
      exact if_neg (h l (List.mem_append_left _ hl)).kept
    have hlast : last ≠ [] := (h last (by simp)).ne_nil
    simp [charLines, hsplit, hmap, hlast]

/-! ## Order -/

/-- Of two characters the octets of the lesser come first, whatever follows
    either. -/
theorem charOctets_append_lt {c d : Char} (h : c < d) (xs ys : List Nat) :
    charOctets c ++ xs < charOctets d ++ ys := by
  have hlt : c.toNat < d.toNat := h
  simp only [charOctets]
  split_ifs <;>
    simp only [List.cons_append, List.nil_append, List.cons_lt_cons_iff] <;>
    omega

/-- Texts in order have their octets in order. -/
theorem octets_lt_of_lt {s t : String} (h : s < t) : octets s < octets t := by
  unfold octets
  rw [String.lt_iff] at h
  generalize s.toList = l at h
  generalize t.toList = m at h
  induction l generalizing m with
  | nil =>
      cases m with
      | nil => exact absurd h (List.lt_irrefl _)
      | cons d m =>
          simp only [List.flatMap_nil, List.flatMap_cons, charOctets]
          split_ifs <;> exact List.nil_lt_cons _ _
  | cons c l ih =>
      cases m with
      | nil => exact absurd h (List.not_lt_nil _)
      | cons d m =>
          rw [List.flatMap_cons, List.flatMap_cons]
          rcases List.cons_lt_cons_iff.mp h with hlt | ⟨rfl, hrest⟩
          · exact charOctets_append_lt hlt _ _
          · exact List.append_left_lt (ih m hrest)

/-- Texts sort like their octets. -/
theorem octets_lt_iff {s t : String} : octets s < octets t ↔ s < t := by
  refine ⟨fun h => ?_, octets_lt_of_lt⟩
  rcases Std.lt_trichotomy s t with hst | rfl | hts
  · exact hst
  · exact absurd h (List.lt_irrefl _)
  · exact absurd h (List.lt_asymm (octets_lt_of_lt hts))

end NodeFlow.Text
