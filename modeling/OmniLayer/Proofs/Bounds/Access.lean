import Mathlib.Data.List.ReduceOption
import OmniLayer.Proofs.Packets
import OmniLayer.Proofs.Traversal

/-! # Accesses that may fault

A run that reaches outside of a list, copies onto a place of another length, cuts a list into pieces
of no length, or leaves the numbers of a machine word, stops with a fault. Here each of these is a
step that may fault, in runs that may also report an error of their own. An access in bounds gives
what the plain operation on lists or numbers gives (`get_eq_ok`, `slice_eq_ok`, `copy_eq_ok`), and a
pass over a list in which no step faults is the plain pass (`select_eq_ok`, `gather_eq_ok`). So a
run is one that only reports (`reported`) as soon as its accesses are shown to be in bounds. -/

namespace OmniLayer

/-- An access that is **refused**. -/
inductive Fault
  /-- A member is read or written behind the end. -/
  | index (place length : Nat)
  /-- A range starts behind its end, or ends behind that of the list. -/
  | range (start stop length : Nat)
  /-- A list is copied onto a range of another length. -/
  | lengths (target source : Nat)
  /-- A list is cut into pieces of no length. -/
  | emptyPieces
  /-- A difference is below zero. -/
  | underflow
  /-- A result does not fit in its word. -/
  | overflow
  deriving DecidableEq, Repr

/-- Why a run **ends early**: with a fault, or with an error that it reports. -/
inductive Failure (ε : Type)
  /-- An access is refused. -/
  | fault (fault : Fault)
  /-- An error is reported. -/
  | error (error : ε)
  deriving DecidableEq, Repr

/-- A **run** whose accesses may fault. -/
abbrev Checked (ε α : Type) := Except (Failure ε) α

namespace Checked

variable {ε α β : Type}

/-! ## Runs that only report -/

/-- A run **without faults**: it gives a value or reports an error. -/
def reported (x : Except ε α) : Checked ε α := x.mapError .error

/-- Steps without faults make a run **without faults**. -/
theorem bind_eq_reported {x : Checked ε α} {y : Except ε α} {f : α → Checked ε β}
    {g : α → Except ε β} (hx : x = reported y) (hf : ∀ a, f a = reported (g a)) :
    (x >>= f) = reported (y >>= g) := by
  rw [hx]
  cases y with
  | error e => rfl
  | ok a => exact hf a

/-- What is made of the value of a run **without faults** adds none. -/
theorem map_reported (f : α → β) (x : Except ε α) :
    (reported x).map f = reported (x.map f) := by
  cases x <;> rfl

/-- A run **without faults** on either side of a test is one without faults. -/
theorem ite_eq_reported {c : Prop} [Decidable c] {x x' : Checked ε α} {y y' : Except ε α}
    (hpos : c → x = reported y) (hneg : ¬c → x' = reported y') :
    (if c then x else x') = reported (if c then y else y') := by
  by_cases h : c
  · rw [if_pos h, if_pos h, hpos h]
  · rw [if_neg h, if_neg h, hneg h]

/-- A run goes on from the value of a step that succeeds. -/
@[simp] theorem ok_bind (a : α) (f : α → Checked ε β) : (.ok a >>= f : Checked ε β) = f a := rfl

/-! ## Lists -/

/-- The member **at a place**. -/
def get (xs : List α) (place : Nat) : Checked ε α :=
  match xs[place]? with
  | some x => .ok x
  | none => .error (.fault (.index place xs.length))

/-- The list with another member **at a place**. -/
def set (xs : List α) (place : Nat) (x : α) : Checked ε (List α) :=
  if place < xs.length then .ok (xs.set place x)
  else .error (.fault (.index place xs.length))

/-- The members from `start` on, up to `stop`. -/
def slice (xs : List α) (start stop : Nat) : Checked ε (List α) :=
  if start ≤ stop ∧ stop ≤ xs.length then .ok ((xs.take stop).drop start)
  else .error (.fault (.range start stop xs.length))

/-- The list with others **copied** onto the range from `start` up to `stop`. -/
def copy (xs : List α) (start stop : Nat) (source : List α) : Checked ε (List α) := do
  let target ← slice xs start stop
  if target.length = source.length then return xs.take start ++ source ++ xs.drop stop
  else throw (.fault (.lengths target.length source.length))

/-- Zeros of a length with a first byte and others **copied behind it**. -/
def fill (n : Nat) (first : UInt8) (source : Bytes) : Checked ε Bytes := do
  let bs ← set (List.replicate n 0) 0 first
  copy bs 1 (1 + source.length) source

/-- A byte string copied onto one of a **fixed length**. -/
def fixed (n : Nat) (bs : Bytes) : Checked ε (FixedBytes n) :=
  match FixedBytes.ofBytes? n bs with
  | some fixed => .ok fixed
  | none => .error (.fault (.lengths n bs.length))

/-- The **pieces** of a list. -/
def pieces (size : Nat) (xs : List α) : Checked ε (List (List α)) :=
  if size = 0 then .error (.fault .emptyPieces) else .ok (chunks size xs)

/-- What a step gives for the members of a list, without those for which it gives nothing. -/
def gather (f : α → Checked ε (Option β)) (xs : List α) : Checked ε (List β) := do
  let ys ← xs.mapM f
  return ys.reduceOption

/-- The members of a list that **pass** a test. -/
def select (p : α → Checked ε Bool) (xs : List α) : Checked ε (List α) :=
  gather (fun x => do return if ← p x then some x else none) xs

/-- Whether some member of a list **passes** a test. -/
def someOf (p : α → Checked ε Bool) (xs : List α) : Checked ε Bool := do
  let tests ← xs.mapM p
  return tests.any id

/-! ## Numbers -/

/-- The **sum** of numbers in a word with a number of values. -/
def add (values a b : Nat) : Checked ε Nat :=
  if a + b < values then .ok (a + b) else .error (.fault .overflow)

/-- The **product** of numbers in a word with a number of values. -/
def mul (values a b : Nat) : Checked ε Nat :=
  if a * b < values then .ok (a * b) else .error (.fault .overflow)

/-- The **difference** of numbers. -/
def sub (a b : Nat) : Checked ε Nat :=
  if b ≤ a then .ok (a - b) else .error (.fault .underflow)

/-! ## Accesses in bounds -/

/-- A member that is there is **read**. -/
theorem get_eq_ok {xs : List α} {place : Nat} {x : α} (h : xs[place]? = some x) :
    (get xs place : Checked ε α) = .ok x := by
  rw [get, h]

/-- A member that is there is **replaced**. -/
theorem set_eq_ok {xs : List α} {place : Nat} (h : place < xs.length) (x : α) :
    (set xs place x : Checked ε (List α)) = .ok (xs.set place x) :=
  if_pos h

/-- A range whose start is not behind its end, nor its end behind that of the list, is **cut out**.
-/
theorem slice_eq_ok {xs : List α} {start stop : Nat} (hstart : start ≤ stop)
    (hstop : stop ≤ xs.length) :
    (slice xs start stop : Checked ε (List α)) = .ok ((xs.take stop).drop start) :=
  if_pos ⟨hstart, hstop⟩

/-- The members from a place on are read when the place is not **behind the end**. -/
theorem slice_length_eq_ok {xs : List α} {start : Nat} (h : start ≤ xs.length) :
    (slice xs start xs.length : Checked ε (List α)) = .ok (xs.drop start) := by
  rw [slice_eq_ok h le_rfl, List.take_length]

/-- A list is copied onto a range that is **as long**. -/
theorem copy_eq_ok {xs source : List α} {start : Nat} (h : start + source.length ≤ xs.length) :
    (copy xs start (start + source.length) source : Checked ε (List α))
      = .ok (xs.take start ++ source ++ xs.drop (start + source.length)) := by
  have hlength : ((xs.take (start + source.length)).drop start).length = source.length := by
    rw [List.length_drop, List.length_take_of_le h, Nat.add_sub_cancel_left]
  rw [copy, slice_eq_ok (Nat.le_add_right _ _) h, ok_bind, if_pos hlength]
  rfl

/-- Bytes that **fit behind** the first one are filled up with zeros. -/
theorem fill_eq_ok {n : Nat} {source : Bytes} (first : UInt8) (h : source.length + 1 ≤ n) :
    (fill n first source : Checked ε Bytes) = .ok (Bytes.padTo n (first :: source)) := by
  obtain ⟨m, rfl⟩ : ∃ m, n = m + 1 := ⟨n - 1, by omega⟩
  have hset : (set (List.replicate (m + 1) 0) 0 first : Checked ε Bytes)
      = .ok (first :: List.replicate m 0) :=
    set_eq_ok (by rw [List.length_replicate]; exact Nat.succ_pos m) first
  have hroom : 1 + source.length ≤ (first :: List.replicate m (0 : UInt8)).length := by
    rw [List.length_cons, List.length_replicate]
    omega
  rw [fill, hset, ok_bind, copy_eq_ok hroom, Nat.add_comm, List.drop_succ_cons, List.drop_replicate,
    Bytes.padTo_cons, Bytes.padTo]
  rfl

/-- Bytes of the length that is wanted are **copied whole**. -/
theorem fixed_eq_ok {n : Nat} {bs : Bytes} {fixed : FixedBytes n}
    (h : FixedBytes.ofBytes? n bs = some fixed) :
    (Checked.fixed n bs : Checked ε (FixedBytes n)) = .ok fixed := by
  rw [Checked.fixed, h]

/-- A list is cut into pieces of a length that is **not zero**. -/
theorem pieces_eq_ok {size : Nat} (h : 0 < size) (xs : List α) :
    (pieces size xs : Checked ε (List (List α))) = .ok (chunks size xs) :=
  if_neg h.ne'

/-- A sum that **fits in the word** is taken. -/
theorem add_eq_ok {values a b : Nat} (h : a + b < values) :
    (add values a b : Checked ε Nat) = .ok (a + b) :=
  if_pos h

/-- A product that **fits in the word** is taken. -/
theorem mul_eq_ok {values a b : Nat} (h : a * b < values) :
    (mul values a b : Checked ε Nat) = .ok (a * b) :=
  if_pos h

/-- A difference that is **not below zero** is taken. -/
theorem sub_eq_ok {a b : Nat} (h : b ≤ a) : (sub a b : Checked ε Nat) = .ok (a - b) :=
  if_pos h

/-! ## Passes without faults -/

/-- A pass in which no step fails gathers what the **plain** pass does. -/
theorem gather_eq_ok {f : α → Checked ε (Option β)} {g : α → Option β} {xs : List α}
    (h : ∀ x ∈ xs, f x = .ok (g x)) : gather f xs = .ok (xs.filterMap g) := by
  rw [gather, mapM_eq_ok_map h, ok_bind, List.reduceOption, List.filterMap_map]
  rfl

/-- A pass in which no test fails selects what the **plain** pass does. -/
theorem select_eq_ok {p : α → Checked ε Bool} {q : α → Bool} {xs : List α}
    (h : ∀ x ∈ xs, p x = .ok (q x)) : select p xs = .ok (xs.filter q) := by
  have hstep : ∀ x ∈ xs, (do return if ← p x then some x else none : Checked ε (Option α))
      = .ok (if q x then some x else none) := by
    intro x hx
    rw [h x hx]
    rfl
  rw [select, gather_eq_ok hstep, ← List.filterMap_eq_filter]
  rfl

/-- A pass in which no test fails finds what the **plain** pass does. -/
theorem someOf_eq_ok {p : α → Checked ε Bool} {q : α → Bool} {xs : List α}
    (h : ∀ x ∈ xs, p x = .ok (q x)) : someOf p xs = .ok (xs.any q) := by
  rw [someOf, mapM_eq_ok_map h, ok_bind, List.any_map]
  rfl

/-- A pass of steps without faults is one **without faults**. -/
theorem mapM_reported (f : α → Except ε β) (xs : List α) :
    xs.mapM (fun x => reported (f x)) = reported (xs.mapM f) := by
  induction xs with
  | nil => rfl
  | cons x xs ih =>
    rw [List.mapM_cons, List.mapM_cons]
    exact bind_eq_reported rfl fun y => bind_eq_reported ih fun ys => rfl

end Checked

end OmniLayer
