/-! # Finite maps

A finite map as a list of pairs with distinct keys, seen through `get?`. Inserting replaces; the
last value written under a key is the one that is found. -/

namespace OmniLayer

universe u v

/-- A **finite map**. -/
structure FinMap (κ : Type u) (υ : Type v) where
  /-- The pairs, the one written last in front. -/
  entries : List (κ × υ)
  /-- No key occurs twice. -/
  nodup_keys : (entries.map Prod.fst).Nodup

namespace FinMap

variable {κ : Type u} {υ : Type v} [DecidableEq κ]

/-- The map without entries. -/
def empty : FinMap κ υ := ⟨[], List.nodup_nil⟩

instance : Inhabited (FinMap κ υ) := ⟨empty⟩

/-- The value found under a key in a list of pairs. -/
def find? (key : κ) : List (κ × υ) → Option υ
  | [] => none
  | (k, value) :: rest => if k = key then some value else find? key rest

/-- The **value** under a key. -/
def get? (m : FinMap κ υ) (key : κ) : Option υ := find? key m.entries

/-- Whether a key has a value. -/
def contains (m : FinMap κ υ) (key : κ) : Bool := (m.get? key).isSome

/-- The number of keys. -/
def size (m : FinMap κ υ) : Nat := m.entries.length

/-- Whether the map has no entries. -/
def isEmpty (m : FinMap κ υ) : Bool := m.entries.isEmpty

/-- Pairs with one key left out. -/
def without (key : κ) (entries : List (κ × υ)) : List (κ × υ) :=
  entries.filter fun entry => entry.1 ≠ key

/-- A key left out is gone. -/
theorem notMem_keys_without (key : κ) (entries : List (κ × υ)) :
    key ∉ (without key entries).map Prod.fst := by
  simp [without]

/-- Writes a value under a key, replacing the one that was there. -/
def insert (m : FinMap κ υ) (key : κ) (value : υ) : FinMap κ υ where
  entries := (key, value) :: without key m.entries
  nodup_keys := by
    rw [List.map_cons, List.nodup_cons]
    refine ⟨notMem_keys_without key m.entries, ?_⟩
    exact m.nodup_keys.sublist (List.filter_sublist.map Prod.fst)

/-- Writes pairs in turn. -/
def insertAll (m : FinMap κ υ) (pairs : List (κ × υ)) : FinMap κ υ :=
  pairs.foldl (fun m pair => m.insert pair.1 pair.2) m

/-- The pairs of a map, the one written first in front. -/
def toList (m : FinMap κ υ) : List (κ × υ) := m.entries.reverse

/-- The map of a list of pairs, in which later pairs replace earlier ones. -/
def ofList (pairs : List (κ × υ)) : FinMap κ υ := empty.insertAll pairs

/-- Writes all entries of a second map over a first. -/
def merge (m other : FinMap κ υ) : FinMap κ υ := m.insertAll other.toList

/-- The empty map has no values. -/
@[simp] theorem get?_empty (key : κ) : (empty : FinMap κ υ).get? key = none := rfl

/-- Leaving a key out changes nothing under the others. -/
theorem find?_without_ne {key other : κ} (h : other ≠ key) (entries : List (κ × υ)) :
    find? other (without key entries) = find? other entries := by
  induction entries with
  | nil => rfl
  | cons entry rest ih =>
    by_cases hk : entry.1 = key
    · have ho : ¬key = other := fun e => h e.symm
      have e : without key (entry :: rest) = without key rest := by simp [without, hk]
      rw [e, ih, find?, if_neg (by rw [hk]; exact ho)]
    · have e : without key (entry :: rest) = entry :: without key rest := by
        simp [without, hk]
      rw [e, find?, find?, ih]

/-- The value just written is found, and no other key is touched. -/
@[simp] theorem get?_insert (m : FinMap κ υ) (key other : κ) (value : υ) :
    (m.insert key value).get? other = if key = other then some value else m.get? other := by
  unfold get? insert
  by_cases h : key = other
  · simp [find?, h]
  · rw [find?, if_neg h, if_neg h, find?_without_ne (fun e => h e.symm)]

/-- A key is looked for among the pairs in front first. -/
@[simp] theorem find?_append (key : κ) (xs ys : List (κ × υ)) :
    find? key (xs ++ ys) = (find? key xs).or (find? key ys) := by
  induction xs with
  | nil => rfl
  | cons entry rest ih =>
    rw [List.cons_append, find?, find?]
    by_cases h : entry.1 = key
    · rw [if_pos h, if_pos h, Option.some_or]
    · rw [if_neg h, if_neg h, ih]

/-- Of the pairs that are written, the **last** one under a key is found. -/
@[simp] theorem get?_insertAll (m : FinMap κ υ) (pairs : List (κ × υ)) (key : κ) :
    (m.insertAll pairs).get? key = (find? key pairs.reverse).or (m.get? key) := by
  induction pairs generalizing m with
  | nil => rfl
  | cons pair rest ih =>
    change ((m.insert pair.1 pair.2).insertAll rest).get? key = _
    rw [ih, List.reverse_cons, find?_append, get?_insert, Option.or_assoc, find?, find?]
    by_cases h : pair.1 = key
    · rw [if_pos h, if_pos h, Option.some_or]
    · rw [if_neg h, if_neg h, Option.none_or]

/-- In a merged map the second map is looked into first. -/
@[simp] theorem get?_merge (m other : FinMap κ υ) (key : κ) :
    (m.merge other).get? key = (other.get? key).or (m.get? key) := by
  rw [merge, get?_insertAll, toList, List.reverse_reverse]
  rfl

/-- Of two values written under one key the second stays. -/
@[simp] theorem insert_insert (m : FinMap κ υ) (key : κ) (value value' : υ) :
    (m.insert key value).insert key value' = m.insert key value' := by
  have hentries : without key ((key, value) :: without key m.entries) = without key m.entries := by
    simp [without]
  simp [insert, hentries]

/-- Among pairs with distinct keys, a pair is there when its key has its value. -/
theorem mem_iff_find? {entries : List (κ × υ)} (h : (entries.map Prod.fst).Nodup) {key : κ}
    {value : υ} : (key, value) ∈ entries ↔ find? key entries = some value := by
  induction entries with
  | nil => simp [find?]
  | cons entry rest ih =>
    rw [List.map_cons, List.nodup_cons] at h
    rw [List.mem_cons, find?]
    by_cases hk : entry.1 = key
    · have hrest : (key, value) ∉ rest := fun hm => h.1 (hk ▸ List.mem_map_of_mem hm)
      rw [if_pos hk, Option.some_inj]
      constructor
      · rintro (rfl | hm)
        · rfl
        · exact absurd hm hrest
      · rintro rfl
        exact Or.inl (by rw [← hk])
    · rw [if_neg hk, ← ih h.2]
      constructor
      · rintro (rfl | hm)
        · exact absurd rfl hk
        · exact hm
      · exact Or.inr

/-- A pair is in a map when its key has its value. -/
theorem mem_entries_iff {m : FinMap κ υ} {key : κ} {value : υ} :
    (key, value) ∈ m.entries ↔ m.get? key = some value :=
  mem_iff_find? m.nodup_keys

end FinMap

end OmniLayer
