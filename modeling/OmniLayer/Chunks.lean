/-! # Chunks

A list cut into pieces of one size, the last of which may be shorter. No piece is empty, and
together they are the list. -/

namespace OmniLayer

universe u

variable {α : Type u}

/-- The **chunks** of a list, of `size` members each; a size of zero counts as one. -/
def chunks (size : Nat) : List α → List (List α)
  | [] => []
  | x :: rest => (x :: rest.take (size - 1)) :: chunks size (rest.drop (size - 1))
termination_by xs => xs.length
decreasing_by simp only [List.length_drop, List.length_cons]; omega

/-- Nothing has no pieces. -/
@[simp] theorem chunks_nil (size : Nat) : chunks size ([] : List α) = [] := by rw [chunks]

/-- The chunks of a list join to the list. -/
@[simp] theorem flatten_chunks (size : Nat) (xs : List α) : (chunks size xs).flatten = xs := by
  induction xs using chunks.induct size with
  | case1 => simp
  | case2 x rest ih => rw [chunks]; simp [ih]

/-- No chunk is empty. -/
theorem ne_nil_of_mem_chunks {size : Nat} {xs piece : List α} (h : piece ∈ chunks size xs) :
    piece ≠ [] := by
  induction xs using chunks.induct size with
  | case1 => simp at h
  | case2 x rest ih =>
    rw [chunks, List.mem_cons] at h
    rcases h with rfl | h
    · simp
    · exact ih h

/-- No chunk is longer than the size. -/
theorem length_le_of_mem_chunks {size : Nat} {xs piece : List α} (hs : 0 < size)
    (h : piece ∈ chunks size xs) : piece.length ≤ size := by
  induction xs using chunks.induct size with
  | case1 => simp at h
  | case2 x rest ih =>
    rw [chunks, List.mem_cons] at h
    rcases h with rfl | h
    · simp only [List.length_cons, List.length_take]
      omega
    · exact ih h

end OmniLayer
