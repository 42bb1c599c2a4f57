import Mathlib.Data.Finset.Card
import OmniLayer.FinMap

/-! # Finite maps by what is found in them

A finite map keeps its pairs in the order in which they were written; what is found in it does not
depend on that order. Two maps are the same map when the same is found in both (`FinMap.Same`), and
then they have as many keys (`FinMap.Same.size_eq`). Writing one map over another is associative,
the second map wins, and maps that agree wherever both have a value may be written over each other
in any order (`FinMap.same_mergeAll_of_perm`). -/

namespace OmniLayer.FinMap

universe u v

variable {κ : Type u} {υ : Type v} [DecidableEq κ] {m m' m'' : FinMap κ υ}

/-! ## The last of several -/

/-- The value of the **last** member that has one: no member behind it has. -/
theorem findSome?_reverse_eq_some_iff {α : Type u} {β : Type v} {f : α → Option β} {xs : List α}
    {value : β} :
    xs.reverse.findSome? f = some value ↔
      ∃ before x after, xs = before ++ x :: after ∧ f x = some value ∧
        ∀ later ∈ after, f later = none := by
  rw [List.findSome?_eq_some_iff]
  constructor
  · rintro ⟨after, x, before, hxs, hx, hafter⟩
    refine ⟨before.reverse, x, after.reverse, ?_, hx, fun later hlater => ?_⟩
    · rw [← List.reverse_inj, hxs, List.reverse_append, List.reverse_cons, List.reverse_reverse,
        List.reverse_reverse, List.append_assoc, List.singleton_append]
    · exact hafter later (List.mem_reverse.1 hlater)
  · rintro ⟨before, x, after, rfl, hx, hafter⟩
    refine ⟨after.reverse, x, before.reverse, ?_, hx, fun later hlater => ?_⟩
    · rw [List.reverse_append, List.reverse_cons, List.append_assoc, List.singleton_append]
    · exact hafter later (List.mem_reverse.1 hlater)

/-- A key is looked for pair by pair. -/
theorem find?_eq_findSome? (key : κ) (pairs : List (κ × υ)) :
    find? key pairs = pairs.findSome? fun pair => if pair.1 = key then some pair.2 else none := by
  induction pairs with
  | nil => rfl
  | cons pair rest ih =>
    rw [find?, List.findSome?_cons, ih]
    split <;> rfl

/-- A key is found where it **stands**. -/
@[simp] theorem exists_find?_eq_some_iff {key : κ} {pairs : List (κ × υ)} :
    (∃ value, find? key pairs = some value) ↔ key ∈ pairs.map Prod.fst := by
  rw [← Option.isSome_iff_exists, find?_eq_findSome?, List.findSome?_isSome_iff, List.mem_map]
  refine exists_congr fun pair => and_congr_right fun _ => ?_
  split <;> simp [*]

/-! ## Keys -/

/-- The **keys** that have a value. -/
def keys (m : FinMap κ υ) : Finset κ := (m.entries.map Prod.fst).toFinset

/-- A key is one that has a value. -/
@[simp] theorem mem_keys_iff {key : κ} : key ∈ m.keys ↔ ∃ value, m.get? key = some value := by
  rw [keys, List.mem_toFinset]
  exact exists_find?_eq_some_iff.symm

/-- The size of a map is the **number of its keys**. -/
@[simp] theorem card_keys (m : FinMap κ υ) : m.keys.card = m.size := by
  rw [keys, List.toFinset_card_of_nodup m.nodup_keys, List.length_map, size]

/-! ## Maps of pairs -/

/-- In the map of a list of pairs, the **last** pair with a key has its value. -/
theorem get?_ofList_eq_some_iff {pairs : List (κ × υ)} {key : κ} {value : υ} :
    (ofList pairs).get? key = some value ↔
      ∃ before after, pairs = before ++ (key, value) :: after ∧ key ∉ after.map Prod.fst := by
  rw [ofList, get?_insertAll, get?_empty, Option.or_none, find?_eq_findSome?,
    findSome?_reverse_eq_some_iff]
  constructor
  · rintro ⟨before, pair, after, rfl, hpair, hafter⟩
    rw [Option.ite_none_right_eq_some, Option.some_inj] at hpair
    obtain ⟨rfl, rfl⟩ := hpair
    refine ⟨before, after, rfl, fun hmem => ?_⟩
    obtain ⟨later, hlater, heq⟩ := List.mem_map.1 hmem
    exact absurd (hafter later hlater) (by simp [heq])
  · rintro ⟨before, after, rfl, hafter⟩
    refine ⟨before, (key, value), after, rfl, if_pos rfl, fun later hlater => if_neg ?_⟩
    rintro rfl
    exact hafter (List.mem_map_of_mem hlater)

/-- A key has a value in the map of a list of pairs when it **stands** in the list. -/
@[simp] theorem exists_get?_ofList_iff {pairs : List (κ × υ)} {key : κ} :
    (∃ value, (ofList pairs).get? key = some value) ↔ key ∈ pairs.map Prod.fst := by
  rw [ofList]
  simp only [get?_insertAll, get?_empty, Option.or_none]
  rw [exists_find?_eq_some_iff, List.map_reverse, List.mem_reverse]

/-- The map of a list of pairs has as many keys as **different** ones stand in the list. -/
@[simp] theorem size_ofList (pairs : List (κ × υ)) :
    (ofList pairs).size = (pairs.map Prod.fst).toFinset.card := by
  rw [← card_keys]
  congr 1
  ext key
  rw [mem_keys_iff, exists_get?_ofList_iff, List.mem_toFinset]

/-- One more pair is written behind the others. -/
@[simp] theorem ofList_concat (pairs : List (κ × υ)) (key : κ) (value : υ) :
    ofList (pairs ++ [(key, value)]) = (ofList pairs).insert key value := by
  rw [ofList, insertAll, List.foldl_append]
  rfl

/-! ## The same map -/

/-- Whether two maps are the **same map**: the same is found in both under every key. -/
def Same (m m' : FinMap κ υ) : Prop := ∀ key, m.get? key = m'.get? key

/-- Every map is the same as itself. -/
theorem Same.refl (m : FinMap κ υ) : m.Same m := fun _ => rfl

/-- The same map has **as many keys**. -/
theorem Same.size_eq (h : m.Same m') : m.size = m'.size := by
  rw [← card_keys, ← card_keys]
  congr 1
  ext key
  rw [mem_keys_iff, mem_keys_iff, h key]

/-! ## Maps written over each other -/

/-- Writing maps over each other is **associative**. -/
theorem same_merge_assoc (m m' m'' : FinMap κ υ) :
    ((m.merge m').merge m'').Same (m.merge (m'.merge m'')) := fun key => by
  rw [get?_merge, get?_merge, get?_merge, get?_merge, Option.or_assoc]

/-- A map written over nothing stays as it is. -/
theorem same_empty_merge (m : FinMap κ υ) : (empty.merge m).Same m := fun key => by
  rw [get?_merge, get?_empty, Option.or_none]

/-- Nothing, written over a map, leaves it as it is. -/
theorem same_merge_empty (m : FinMap κ υ) : (m.merge empty).Same m := .refl m

/-- A map written over itself stays as it is. -/
theorem same_merge_self (m : FinMap κ υ) : (m.merge m).Same m := fun key => by
  rw [get?_merge, Option.or_self]

/-- Maps written over each other **in turn**. -/
def mergeAll (ms : List (FinMap κ υ)) : FinMap κ υ := ms.foldl merge empty

/-- Whether two maps **agree**: a key that has a value in both has the same one. -/
def Agree (m m' : FinMap κ υ) : Prop :=
  ∀ key value value', m.get? key = some value → m'.get? key = some value' → value = value'

/-- Agreement is told from the pairs. -/
theorem agree_iff : m.Agree m' ↔
    ∀ pair ∈ m.entries, ∀ pair' ∈ m'.entries, pair.1 = pair'.1 → pair.2 = pair'.2 := by
  constructor
  · rintro h ⟨key, value⟩ hpair ⟨_, value'⟩ hpair' rfl
    exact h key value value' (mem_entries_iff.1 hpair) (mem_entries_iff.1 hpair')
  · intro h key value value' hvalue hvalue'
    exact h _ (mem_entries_iff.2 hvalue) _ (mem_entries_iff.2 hvalue') rfl

instance [DecidableEq υ] (m m' : FinMap κ υ) : Decidable (m.Agree m') :=
  decidable_of_iff _ agree_iff.symm

/-- What is found in maps that were written over a first is found in **the last** of them that has
the key. -/
theorem get?_foldl_merge (ms : List (FinMap κ υ)) (m : FinMap κ υ) (key : κ) :
    (ms.foldl merge m).get? key = (ms.reverse.findSome? (·.get? key)).or (m.get? key) := by
  induction ms generalizing m with
  | nil => rfl
  | cons first rest ih =>
    rw [List.foldl_cons, ih, get?_merge, List.reverse_cons, List.findSome?_append,
      List.findSome?_singleton, Option.or_assoc]

/-- Of maps that agree, it does not matter **which one has the key**. -/
theorem get?_mergeAll_eq_some_iff {ms : List (FinMap κ υ)} (h : ∀ m ∈ ms, ∀ m' ∈ ms, m.Agree m')
    {key : κ} {value : υ} :
    (mergeAll ms).get? key = some value ↔ ∃ m ∈ ms, m.get? key = some value := by
  rw [mergeAll, get?_foldl_merge, get?_empty, Option.or_none]
  constructor
  · intro hfind
    obtain ⟨m, hmem, hvalue⟩ := List.exists_of_findSome?_eq_some hfind
    exact ⟨m, List.mem_reverse.1 hmem, hvalue⟩
  · rintro ⟨m, hmem, hvalue⟩
    -- Some map with the key is found, and it agrees with this one.
    have hsome : (ms.reverse.findSome? (·.get? key)).isSome := by
      rw [List.findSome?_isSome_iff]
      exact ⟨m, List.mem_reverse.2 hmem, by rw [hvalue]; rfl⟩
    obtain ⟨value', hfind⟩ := Option.isSome_iff_exists.1 hsome
    obtain ⟨m', hmem', hvalue'⟩ := List.exists_of_findSome?_eq_some hfind
    rw [hfind, h m hmem m' (List.mem_reverse.1 hmem') key value value' hvalue hvalue']

/-- Maps that agree may be written over each other in **any order**. -/
theorem same_mergeAll_of_perm {ms ms' : List (FinMap κ υ)}
    (h : ∀ m ∈ ms, ∀ m' ∈ ms, m.Agree m') (hperm : ms.Perm ms') :
    (mergeAll ms).Same (mergeAll ms') := by
  have h' : ∀ m ∈ ms', ∀ m' ∈ ms', m.Agree m' :=
    fun m hm m' hm' => h m (hperm.mem_iff.2 hm) m' (hperm.mem_iff.2 hm')
  intro key
  refine Option.ext fun value => ?_
  rw [get?_mergeAll_eq_some_iff h, get?_mergeAll_eq_some_iff h']
  simp only [hperm.mem_iff]

end OmniLayer.FinMap
