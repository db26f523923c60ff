import HyperSchema.Text.Blank
import HyperSchema.Text.Pieces
import Mathlib.Data.List.DropRight

namespace HyperSchema.Text

/-- Neither the first character is blank nor the last. -/
structure Trimmed (cs : List Char) : Prop where
  head : ∀ c ∈ cs.head?, isBlank c = false
  last : ∀ c ∈ cs.getLast?, isBlank c = false

variable {c sep : Char} {cs : List Char}

theorem trimEnd_eq_rdropWhile (cs : List Char) : trimEnd cs = cs.rdropWhile isBlank := rfl

theorem Trimmed.trimChars_eq (h : Trimmed cs) : trimChars cs = cs := by
  cases cs with
  | nil => rfl
  | cons c cs =>
    have hhead : isBlank c = false := h.head c rfl
    rw [trimChars, trimEnd_eq_rdropWhile, List.dropWhile_cons_of_neg (by simp [hhead]),
      List.rdropWhile_eq_self_iff]
    intro hne
    have hlast := h.last ((c :: cs).getLast hne) (List.getLast?_eq_some_getLast hne)
    simp [hlast]

theorem trimmed_trimChars (cs : List Char) : Trimmed (trimChars cs) := by
  rw [trimChars, trimEnd_eq_rdropWhile]
  refine ⟨?_, ?_⟩
  · intro c hc
    obtain ⟨rest, hrest⟩ := List.rdropWhile_prefix isBlank (cs.dropWhile isBlank)
    have hhead := List.head?_dropWhile_not isBlank cs
    rw [← hrest, List.head?_append, Option.mem_def.mp hc] at hhead
    exact hhead
  · intro c hc
    obtain ⟨hne, rfl⟩ := List.mem_getLast?_eq_getLast hc
    exact Bool.not_eq_true _ ▸ List.rdropWhile_last_not isBlank _ hne

theorem trimChars_trimChars (cs : List Char) : trimChars (trimChars cs) = trimChars cs :=
  (trimmed_trimChars cs).trimChars_eq

/-- A text without any blank. -/
theorem trimmed_of_forall (h : ∀ c ∈ cs, isBlank c = false) : Trimmed cs :=
  ⟨fun c hc => h c (List.mem_of_mem_head? hc), fun c hc => h c (List.mem_of_mem_getLast? hc)⟩

theorem mem_of_mem_trimChars (h : c ∈ trimChars cs) : c ∈ cs := by
  rw [trimChars, trimEnd_eq_rdropWhile] at h
  have hdrop := (List.rdropWhile_prefix isBlank _).subset h
  exact (List.dropWhile_suffix isBlank).subset hdrop

theorem trimChars_cons_of_isBlank (h : isBlank c = true) (cs : List Char) :
    trimChars (c :: cs) = trimChars cs := by
  rw [trimChars, trimChars, List.dropWhile_cons_of_pos h]

theorem trimChars_concat_of_isBlank (h : isBlank c = true) (cs : List Char) :
    trimChars (cs ++ [c]) = trimChars cs := by
  simp only [trimChars, trimEnd_eq_rdropWhile, List.dropWhile_append]
  split
  next hempty =>
    rw [List.isEmpty_iff.mp hempty, List.dropWhile_cons_of_pos h, List.dropWhile_nil]
  next => rw [List.rdropWhile_concat_pos _ _ _ h]

theorem splitChars_cons_sep (sep : Char) (cs : List Char) :
    splitChars sep (sep :: cs) = [] :: splitChars sep cs := by
  rw [splitChars, if_pos rfl]

/-- What is no separator belongs to the first piece. -/
theorem exists_splitChars_cons (h : c ≠ sep) (cs : List Char) :
    ∃ first rest, splitChars sep cs = first :: rest ∧
      splitChars sep (c :: cs) = (c :: first) :: rest := by
  obtain ⟨first, rest, hcs⟩ := List.exists_cons_of_ne_nil (splitChars_ne_nil sep cs)
  refine ⟨first, rest, hcs, ?_⟩
  rw [splitChars, if_neg h, hcs]

/-- At the end of the text, it belongs to the last one. -/
theorem exists_splitChars_concat (h : c ≠ sep) (cs : List Char) :
    ∃ front last, splitChars sep cs = front ++ [last] ∧
      splitChars sep (cs ++ [c]) = front ++ [last ++ [c]] := by
  induction cs with
  | nil =>
    refine ⟨[], [], rfl, ?_⟩
    rw [List.nil_append, splitChars, if_neg h]
    rfl
  | cons d cs ih =>
    obtain ⟨front, last, hcs, hconcat⟩ := ih
    by_cases hd : d = sep
    · refine ⟨[] :: front, last, ?_, ?_⟩
      · rw [hd, splitChars_cons_sep, hcs, List.cons_append]
      · rw [hd, List.cons_append, splitChars_cons_sep, hconcat, List.cons_append]
    · rw [List.cons_append, splitChars, splitChars, if_neg hd, if_neg hd, hcs, hconcat]
      cases front with
      | nil => exact ⟨[], d :: last, rfl, rfl⟩
      | cons first front => exact ⟨(d :: first) :: front, last, rfl, rfl⟩

theorem not_mem_of_mem_splitChars {piece : List Char} (h : piece ∈ splitChars sep cs) :
    sep ∉ piece := by
  induction cs generalizing piece with
  | nil =>
    rw [List.mem_singleton.mp h]
    exact List.not_mem_nil
  | cons c cs ih =>
    by_cases hc : c = sep
    · rw [hc, splitChars_cons_sep] at h
      cases h with
      | head => exact List.not_mem_nil
      | tail _ h => exact ih h
    · obtain ⟨first, rest, hcs, hcons⟩ := exists_splitChars_cons hc cs
      rw [hcons] at h
      rw [hcs] at ih
      cases h with
      | head =>
        rw [List.mem_cons, not_or]
        exact ⟨fun heq => hc heq.symm, ih List.mem_cons_self⟩
      | tail _ h => exact ih (List.mem_cons_of_mem first h)

theorem eq_of_splitChars_eq_singleton {piece : List Char} (h : splitChars sep cs = [piece]) :
    piece = cs := by
  induction cs generalizing piece with
  | nil => exact (List.cons.inj h).1.symm
  | cons c cs ih =>
    by_cases hc : c = sep
    · rw [hc, splitChars_cons_sep] at h
      exact absurd (List.cons.inj h).2 (splitChars_ne_nil sep cs)
    · obtain ⟨first, rest, hcs, hcons⟩ := exists_splitChars_cons hc cs
      rw [hcons] at h
      obtain ⟨hpiece, hrest⟩ := List.cons.inj h
      rw [hrest] at hcs
      rw [← hpiece, ih hcs]

variable (hsep : isBlank sep = false)
include hsep

theorem ne_of_isBlank (h : isBlank c = true) : c ≠ sep := by
  rintro rfl
  rw [h] at hsep
  cases hsep

/-- A blank at the beginning is lost when the first piece is trimmed. -/
theorem map_trimChars_splitChars_cons (h : isBlank c = true) (cs : List Char) :
    (splitChars sep (c :: cs)).map trimChars = (splitChars sep cs).map trimChars := by
  obtain ⟨first, rest, hcs, hcons⟩ := exists_splitChars_cons (ne_of_isBlank hsep h) cs
  rw [hcs, hcons, List.map_cons, List.map_cons, trimChars_cons_of_isBlank h]

theorem map_trimChars_splitChars_concat (h : isBlank c = true) (cs : List Char) :
    (splitChars sep (cs ++ [c])).map trimChars = (splitChars sep cs).map trimChars := by
  obtain ⟨front, last, hcs, hconcat⟩ := exists_splitChars_concat (ne_of_isBlank hsep h) cs
  rw [hcs, hconcat, List.map_append, List.map_append, List.map_singleton, List.map_singleton,
    trimChars_concat_of_isBlank h]

/-- For the trimmed pieces of a text it does not matter whether the text is trimmed. -/
theorem map_trimChars_splitChars_trimChars (cs : List Char) :
    (splitChars sep (trimChars cs)).map trimChars = (splitChars sep cs).map trimChars := by
  have hstart : (splitChars sep (cs.dropWhile isBlank)).map trimChars =
      (splitChars sep cs).map trimChars := by
    induction cs with
    | nil => rfl
    | cons c cs ih =>
      by_cases hc : isBlank c = true
      · rw [List.dropWhile_cons_of_pos hc, ih, map_trimChars_splitChars_cons hsep hc]
      · rw [List.dropWhile_cons_of_neg hc]
  rw [trimChars, trimEnd_eq_rdropWhile, ← hstart]
  induction cs.dropWhile isBlank using List.reverseRecOn with
  | nil => rfl
  | append_singleton cs c ih =>
    by_cases hc : isBlank c = true
    · rw [List.rdropWhile_concat_pos _ _ _ hc, ih, map_trimChars_splitChars_concat hsep hc]
    · rw [List.rdropWhile_concat_neg _ _ _ hc]

/-- Pieces come back from behind a separator and a blank each. -/
theorem map_trimChars_splitChars_intercalate {blank : Char} (hblank : isBlank blank = true)
    {pieces : List (List Char)} (hne : pieces ≠ []) (h : ∀ piece ∈ pieces, sep ∉ piece) :
    (splitChars sep ([sep, blank].intercalate pieces)).map trimChars = pieces.map trimChars := by
  induction pieces with
  | nil => exact absurd rfl hne
  | cons piece rest ih =>
    obtain ⟨hpiece, hrest⟩ := List.forall_mem_cons.mp h
    cases rest with
    | nil =>
      rw [List.intercalate_singleton, splitChars_of_not_mem hpiece]
    | cons next rest =>
      have hjoin : [sep, blank].intercalate (piece :: next :: rest) =
          piece ++ sep :: blank :: [sep, blank].intercalate (next :: rest) := by
        rw [List.intercalate_cons_cons, List.append_assoc]
        rfl
      have htail := ih (List.cons_ne_nil next rest) hrest
      rw [hjoin, splitChars_append hpiece, List.map_cons,
        map_trimChars_splitChars_cons hsep hblank, htail]
      rfl

end HyperSchema.Text
