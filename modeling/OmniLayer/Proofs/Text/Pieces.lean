import OmniLayer.Text.Utf8
import Mathlib.Data.List.Basic

/-! # Pieces of a text

Cutting at a separator gives the only pieces that are free of it and make up the text again with the
separator between them (`Text.splitOn_eq_iff`). There is one piece more than there are separators
(`Text.length_splitOn`). -/

namespace OmniLayer.Text

variable {separator : Char} {cs : List Char} {pieces : List (List Char)}

/-- A text is cut as a **list** is. -/
theorem splitOn_eq_splitOn (separator : Char) (cs : List Char) :
    splitOn separator cs = cs.splitOn separator := by
  induction cs with
  | nil => rfl
  | cons c rest ih =>
    rw [splitOn, ih, List.splitOn_cons_eq_if_modifyHead]
    simp only [beq_iff_eq]
    split_ifs
    · rfl
    · obtain ⟨piece, pieces, h⟩ := List.exists_cons_of_ne_nil (List.splitOn_ne_nil separator rest)
      rw [h]
      rfl

/-- There is one piece **more** than there are separators. -/
@[simp] theorem length_splitOn (separator : Char) (cs : List Char) :
    (splitOn separator cs).length = cs.count separator + 1 := by
  rw [splitOn_eq_splitOn]
  induction cs with
  | nil => rfl
  | cons c rest ih =>
    rw [List.splitOn_cons_eq_if_modifyHead, List.count_cons]
    split_ifs
    · rw [List.length_cons, ih]
    · rw [List.length_modifyHead, ih]

/-- No piece has a separator **in it**. -/
theorem not_mem_of_mem_splitOn {piece : List Char} (h : piece ∈ splitOn separator cs) :
    separator ∉ piece := by
  rw [splitOn_eq_splitOn] at h
  induction cs generalizing piece with
  | nil =>
    obtain rfl := List.mem_singleton.1 h
    exact List.not_mem_nil
  | cons c rest ih =>
    rw [List.splitOn_cons_eq_if_modifyHead] at h
    split_ifs at h with hc
    · rcases List.mem_cons.1 h with rfl | hrest
      · exact List.not_mem_nil
      · exact ih hrest
    · obtain ⟨first, others, hsplit⟩ :=
        List.exists_cons_of_ne_nil (List.splitOn_ne_nil separator rest)
      rw [hsplit, List.modifyHead_cons] at h
      rw [hsplit] at ih
      rcases List.mem_cons.1 h with rfl | hothers
      · rw [List.mem_cons, not_or]
        exact ⟨fun heq => hc (beq_iff_eq.2 heq.symm), ih List.mem_cons_self⟩
      · exact ih (List.mem_cons_of_mem first hothers)

/-- The pieces are those that are **free of separators** and make up the text with separators
between them. -/
theorem splitOn_eq_iff :
    splitOn separator cs = pieces ↔
      cs = [separator].intercalate pieces ∧ pieces ≠ [] ∧ ∀ piece ∈ pieces, separator ∉ piece := by
  constructor
  · rintro rfl
    refine ⟨?_, ?_, fun piece h => not_mem_of_mem_splitOn h⟩
    · rw [splitOn_eq_splitOn, List.intercalate_splitOn]
    · rw [splitOn_eq_splitOn]
      exact List.splitOn_ne_nil separator cs
  · rintro ⟨rfl, hne, hfree⟩
    rw [splitOn_eq_splitOn, List.splitOn_intercalate separator hfree hne]

end OmniLayer.Text
