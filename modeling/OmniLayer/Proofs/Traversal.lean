import Mathlib.Data.List.Forall2

/-! # Steps that may fail

A chain of steps succeeds when each of them does (`bind_eq_ok_iff`), and so does one step made for
every member of a list (`mapM_eq_ok_iff`), which fails with the first member that does
(`mapM_eq_error_iff`). Where each step fails only with errors of one kind, so
do the chain (`FailsOnly.bind`) and the list (`FailsOnly.mapM`). Two runs are compared in the same
way: a run that may give more follows one that may give less, step by step (`Follows.bind`,
`Follows.mapM`). -/

namespace OmniLayer

universe u

variable {ε α β γ : Type u}

/-! ## Successes -/

/-- Two steps succeed when the first does and the second does with its value. -/
theorem bind_eq_ok_iff {x : Except ε α} {f : α → Except ε β} {b : β} :
    (x >>= f) = .ok b ↔ ∃ a, x = .ok a ∧ f a = .ok b := by
  cases x with
  | error e =>
    constructor
    · intro h
      cases h
    · rintro ⟨a, h, -⟩
      cases h
  | ok a =>
    constructor
    · intro h
      exact ⟨a, rfl, h⟩
    · rintro ⟨a', h, hb⟩
      cases h
      exact hb

/-- Two steps of which the first gives a changed value give a changed result, if the second makes
the change that is asked for out of the one that it is given. -/
theorem map_bind_eq_map {α' β' : Type u} {x : Except ε α} {change : α → α'} {change' : β → β'}
    {f : α → Except ε β} {f' : α' → Except ε β'} (h : ∀ a, f' (change a) = (f a).map change') :
    (x.map change >>= f') = (x >>= f).map change' := by
  cases x with
  | error e => rfl
  | ok a => exact h a

/-- A step for every member succeeds with the values that it has for the **members, one by one**. -/
theorem mapM_eq_ok_iff {f : α → Except ε β} {xs : List α} {ys : List β} :
    xs.mapM f = .ok ys ↔ List.Forall₂ (fun x y => f x = .ok y) xs ys := by
  induction xs generalizing ys with
  | nil =>
    rw [List.mapM_nil, List.forall₂_nil_left_iff]
    constructor
    · intro h
      cases h
      rfl
    · rintro rfl
      rfl
  | cons x xs ih =>
    rw [List.mapM_cons, bind_eq_ok_iff]
    constructor
    · rintro ⟨y, hy, hrest⟩
      obtain ⟨rest, hxs, hcons⟩ := bind_eq_ok_iff.1 hrest
      cases hcons
      exact .cons hy (ih.1 hxs)
    · rintro (_ | ⟨hy, hrest⟩)
      exact ⟨_, hy, bind_eq_ok_iff.2 ⟨_, ih.2 hrest, rfl⟩⟩

/-- Each value that a step for every member gives is that of a member. -/
theorem exists_mem_of_mapM_eq_ok {f : α → Except ε β} {xs : List α} {ys : List β} {y : β}
    (h : xs.mapM f = .ok ys) (hy : y ∈ ys) : ∃ x ∈ xs, f x = .ok y := by
  have hpairs := mapM_eq_ok_iff.1 h
  clear h
  induction hpairs with
  | nil => exact absurd hy List.not_mem_nil
  | @cons x y' xs ys hx _ ih =>
    rcases List.mem_cons.1 hy with rfl | hy
    · exact ⟨x, List.mem_cons_self, hx⟩
    · obtain ⟨x', hx', hstep⟩ := ih hy
      exact ⟨x', List.mem_cons_of_mem _ hx', hstep⟩

/-- The value that a step for every member gives at a place is that of the member there. -/
theorem exists_getElem?_of_mapM_eq_ok {f : α → Except ε β} {xs : List α} {ys : List β} {place : Nat}
    {y : β} (h : xs.mapM f = .ok ys) (hget : ys[place]? = some y) :
    ∃ x, xs[place]? = some x ∧ f x = .ok y := by
  obtain ⟨hlength, hall⟩ := List.forall₂_iff_get.1 (mapM_eq_ok_iff.1 h)
  obtain ⟨hplace, rfl⟩ := List.getElem?_eq_some_iff.1 hget
  exact ⟨_, List.getElem?_eq_getElem (hlength ▸ hplace), hall place (hlength ▸ hplace) hplace⟩

/-- A step for every member succeeds when it does for each. -/
theorem exists_mapM_eq_ok_iff {f : α → Except ε β} {xs : List α} :
    (∃ ys, xs.mapM f = .ok ys) ↔ ∀ x ∈ xs, ∃ y, f x = .ok y := by
  induction xs with
  | nil => exact ⟨fun _ x hx => absurd hx List.not_mem_nil, fun _ => ⟨[], rfl⟩⟩
  | cons x xs ih =>
    rw [List.forall_mem_cons, ← ih]
    constructor
    · rintro ⟨ys, h⟩
      rw [mapM_eq_ok_iff] at h
      cases h with
      | cons hx hxs => exact ⟨⟨_, hx⟩, _, mapM_eq_ok_iff.2 hxs⟩
    · rintro ⟨⟨y, hy⟩, ys, hys⟩
      exact ⟨y :: ys, mapM_eq_ok_iff.2 (.cons hy (mapM_eq_ok_iff.1 hys))⟩

/-- A step that is known for every member gives the list of its values. -/
theorem mapM_eq_ok_map {f : α → Except ε β} {g : α → β} {xs : List α}
    (h : ∀ x ∈ xs, f x = .ok (g x)) : xs.mapM f = .ok (xs.map g) := by
  rw [mapM_eq_ok_iff, List.forall₂_map_right_iff, List.forall₂_same]
  exact h

/-- Steps that are the same for every member are the same for the list. -/
theorem mapM_congr {f g : α → Except ε β} {xs : List α} (h : ∀ x ∈ xs, f x = g x) :
    xs.mapM f = xs.mapM g := by
  induction xs with
  | nil => rfl
  | cons x xs ih =>
    rw [List.forall_mem_cons] at h
    rw [List.mapM_cons, List.mapM_cons, h.1, ih h.2]

/-- Values may be changed along with their members **afterwards**. -/
theorem mapM_map (f : α → Except ε β) (g : α → β → γ) (xs : List α) :
    xs.mapM (fun x => (f x).map (g x)) = (xs.mapM f).map fun ys => List.zipWith g xs ys := by
  induction xs with
  | nil => rfl
  | cons x xs ih =>
    rw [List.mapM_cons, List.mapM_cons, ih]
    cases f x with
    | error e => rfl
    | ok y => cases xs.mapM f <;> rfl

/-- Another wording of the errors leaves the values as they are. -/
@[simp] theorem mapError_eq_ok_iff {ε' : Type u} {x : Except ε α} {change : ε → ε'} {a : α} :
    x.mapError change = .ok a ↔ x = .ok a := by
  cases x <;> simp [Except.mapError]

/-- Pairs that are related through a third member each are related through a **list** of such
members, one behind the other. -/
theorem forall₂_exists_iff {r : α → β → Prop} {p : β → Prop} {f : α → β → γ} {xs : List α}
    {zs : List γ} :
    List.Forall₂ (fun x z => ∃ y, r x y ∧ p y ∧ z = f x y) xs zs ↔
      ∃ ys, List.Forall₂ r xs ys ∧ (∀ y ∈ ys, p y) ∧ zs = List.zipWith f xs ys := by
  constructor
  · intro h
    induction h with
    | nil => exact ⟨[], .nil, fun y hy => absurd hy List.not_mem_nil, rfl⟩
    | cons hx _ ih =>
      obtain ⟨y, hr, hp, rfl⟩ := hx
      obtain ⟨ys, hrs, hps, rfl⟩ := ih
      exact ⟨y :: ys, .cons hr hrs, List.forall_mem_cons.2 ⟨hp, hps⟩, rfl⟩
  · rintro ⟨ys, hrs, hps, rfl⟩
    induction hrs with
    | nil => exact .nil
    | cons hr _ ih =>
      obtain ⟨hp, hps⟩ := List.forall_mem_cons.1 hps
      exact .cons ⟨_, hr, hp, rfl⟩ (ih hps)

/-- Values that are read one by one may be **gathered as they are read**. -/
theorem foldlM_eq_map_mapM (f : α → Except ε β) (g : γ → β → γ) (start : γ) (xs : List α) :
    xs.foldlM (fun c x => f x >>= fun y => .ok (g c y)) start
      = (xs.mapM f).map (List.foldl g start) := by
  induction xs generalizing start with
  | nil => rfl
  | cons x xs ih =>
    rw [List.foldlM_cons, List.mapM_cons]
    cases f x with
    | error e => rfl
    | ok y =>
      change xs.foldlM _ (g start y) = (xs.mapM f >>= fun ys => .ok (y :: ys)).map _
      rw [ih]
      cases xs.mapM f <;> rfl

/-! ## Failures -/

/-- Two steps fail when the first does, or the second does with the value of the first. -/
theorem bind_eq_error_iff {x : Except ε α} {f : α → Except ε β} {e : ε} :
    (x >>= f) = .error e ↔ x = .error e ∨ ∃ a, x = .ok a ∧ f a = .error e := by
  cases x with
  | error e' => simp [bind, Except.bind]
  | ok a => simp [bind, Except.bind]

/-- A step for every member fails with the error that it has for the **first member that fails**. -/
theorem mapM_eq_error_iff {f : α → Except ε β} {xs : List α} {e : ε} :
    xs.mapM f = .error e ↔ ∃ front x back, xs = front ++ x :: back ∧
      (∀ y ∈ front, ∃ b, f y = .ok b) ∧ f x = .error e := by
  induction xs with
  | nil =>
    constructor
    · intro h
      cases h
    · rintro ⟨front, x, back, h, -⟩
      simp at h
  | cons a xs ih =>
    rw [List.mapM_cons]
    cases ha : f a with
    | error e' =>
      constructor
      · intro h
        cases h
        exact ⟨[], a, xs, rfl, fun _ h => absurd h List.not_mem_nil, ha⟩
      · rintro ⟨front, x, back, h, hok, hx⟩
        cases front with
        | nil =>
          obtain ⟨rfl, rfl⟩ := List.cons.inj h
          rw [ha] at hx
          cases hx
          rfl
        | cons y front =>
          -- The first member fails, so it is not in front of the one that fails.
          obtain ⟨rfl, -⟩ := List.cons.inj h
          obtain ⟨b, hb⟩ := hok a List.mem_cons_self
          rw [ha] at hb
          cases hb
    | ok b =>
      have hrest : (Except.ok b >>= fun b => xs.mapM f >>= fun bs => pure (b :: bs)) = .error e
          ↔ xs.mapM f = .error e := by
        simp [bind_eq_error_iff, pure, Except.pure]
      rw [hrest, ih]
      constructor
      · rintro ⟨front, x, back, rfl, hok, hx⟩
        exact ⟨a :: front, x, back, rfl, List.forall_mem_cons.2 ⟨⟨b, ha⟩, hok⟩, hx⟩
      · rintro ⟨front, x, back, h, hok, hx⟩
        cases front with
        | nil =>
          obtain ⟨rfl, rfl⟩ := List.cons.inj h
          rw [ha] at hx
          cases hx
        | cons y front =>
          obtain ⟨rfl, rfl⟩ := List.cons.inj h
          exact ⟨front, x, back, rfl, (List.forall_mem_cons.1 hok).2, hx⟩

/-- A step for every number below a bound fails with the error for the **least number** that fails.
-/
theorem mapM_range_eq_error_iff {ε β : Type} {f : Nat → Except ε β} {n : Nat} {e : ε} :
    (List.range n).mapM f = .error e ↔
      ∃ i < n, (∀ j < i, ∃ b, f j = .ok b) ∧ f i = .error e := by
  rw [mapM_eq_error_iff]
  constructor
  · rintro ⟨front, i, back, hrange, hfront, hi⟩
    rw [List.range_eq_range', List.range'_eq_append_iff] at hrange
    obtain ⟨count, hcount, rfl, hback⟩ := hrange
    obtain ⟨hstart, hpos, -⟩ := List.range'_eq_cons_iff.1 hback.symm
    obtain rfl : count = i := by omega
    refine ⟨count, by omega, fun j hj => hfront j ?_, hi⟩
    rwa [← List.range_eq_range', List.mem_range]
  · rintro ⟨i, hlt, hless, hi⟩
    refine ⟨List.range i, i, List.range' (i + 1) (n - i - 1), ?_,
      fun j hj => hless j (List.mem_range.1 hj), hi⟩
    rw [List.range_eq_range', List.range'_eq_append_iff]
    refine ⟨i, Nat.le_of_lt hlt, List.range_eq_range', ?_⟩
    rw [eq_comm, List.range'_eq_cons_iff]
    exact ⟨by omega, by omega, rfl⟩

/-- Whether a step **fails only** with errors of one kind. -/
def FailsOnly (kind : ε → Prop) (x : Except ε α) : Prop := ∀ e, x = .error e → kind e

namespace FailsOnly

variable {kind : ε → Prop} {x : Except ε α}

/-- A step that succeeds does not fail. -/
theorem ok (a : α) : FailsOnly kind (.ok a : Except ε α) := by
  intro e h
  cases h

/-- A step that fails does so with its error. -/
theorem error {e : ε} (h : kind e) : FailsOnly kind (.error e : Except ε α) := by
  intro e' he
  cases he
  exact h

/-- A step that fails with errors of one kind fails with those of a wider one. -/
theorem mono {kind' : ε → Prop} (hx : FailsOnly kind x) (h : ∀ e, kind e → kind' e) :
    FailsOnly kind' x :=
  fun e he => h e (hx e he)

/-- A value that is changed afterwards leaves the errors as they are. -/
theorem map (hx : FailsOnly kind x) (f : α → β) : FailsOnly kind (x.map f) := by
  intro e h
  cases x with
  | error e' =>
    cases h
    exact hx e rfl
  | ok a => cases h

/-- A chain fails with an error of one of its steps. -/
theorem bind {f : α → Except ε β} (hx : FailsOnly kind x) (hf : ∀ a, FailsOnly kind (f a)) :
    FailsOnly kind (x >>= f) := by
  intro e h
  cases x with
  | error e' =>
    cases h
    exact hx e rfl
  | ok a => exact hf a e h

/-- A step for every member fails with an error of the step for one of them. -/
theorem mapM {f : α → Except ε β} (hf : ∀ a, FailsOnly kind (f a)) (xs : List α) :
    FailsOnly kind (xs.mapM f) := by
  induction xs with
  | nil => exact ok []
  | cons x xs ih =>
    rw [List.mapM_cons]
    exact (hf x).bind fun y => ih.bind fun ys => ok (y :: ys)

/-- A step that does not succeed fails with an error of the kind. -/
theorem exists_eq_error (hx : FailsOnly kind x) (h : ¬∃ a, x = .ok a) :
    ∃ e, x = .error e ∧ kind e := by
  cases x with
  | error e => exact ⟨e, rfl, hx e rfl⟩
  | ok a => exact absurd ⟨a, rfl⟩ h

end FailsOnly

/-- A step is **known in all cases** when it succeeds in one case, fails as it should in others, and
there are no more. -/
theorem exists_eq_ok_iff_and_eq_error_iff {x : Except ε α} {accepted : Prop} {refused : ε → Prop}
    (hok : accepted → ∃ a, x = .ok a) (herror : ∀ e, refused e → x = .error e)
    (hcases : accepted ∨ ∃ e, refused e) :
    ((∃ a, x = .ok a) ↔ accepted) ∧ ∀ e, x = .error e ↔ refused e := by
  rcases hcases with haccepted | ⟨e', hrefused⟩
  · obtain ⟨a, ha⟩ := hok haccepted
    refine ⟨iff_of_true ⟨a, ha⟩ haccepted, fun e => ⟨fun h => ?_, herror e⟩⟩
    rw [ha] at h
    cases h
  · have he := herror e' hrefused
    refine ⟨⟨fun ⟨a, h⟩ => ?_, hok⟩, fun e => ⟨fun h => ?_, herror e⟩⟩
    · rw [he] at h
      cases h
    · rw [he] at h
      cases h
      exact hrefused

/-! ## Two runs -/

/-- Whether a second run **follows** a first: it gives the same, with the value changed, unless the
first fails with an error of one kind. -/
def Follows (kind : ε → Prop) (change : α → β) (x : Except ε α) (y : Except ε β) : Prop :=
  (∀ e, kind e → x ≠ .error e) → y = x.map change

namespace Follows

variable {kind : ε → Prop} {change : β → γ}

/-- A run that is the same follows. -/
theorem of_eq {x y : Except ε α} (h : y = x) : Follows kind id x y := by
  intro _
  rw [h]
  cases x <;> rfl

/-- A success is followed by one with the changed value. -/
theorem ok {b : β} {c : γ} (h : c = change b) :
    Follows kind change (.ok b : Except ε β) (.ok c) :=
  fun _ => congrArg Except.ok h

/-- Nothing is asked of a run behind an error of the kind. -/
theorem error {e : ε} (h : kind e) (y : Except ε γ) :
    Follows kind change (.error e : Except ε β) y :=
  fun hne => absurd rfl (hne e h)

/-- Runs whose values are read in two ways follow when the readings are changed likewise. -/
theorem map {β' γ' : Type u} {change' : β' → γ'} {f : β → β'} {g : γ → γ'} {x : Except ε β}
    {y : Except ε γ} (h : Follows kind change x y) (hread : ∀ b, g (change b) = change' (f b)) :
    Follows kind change' (x.map f) (y.map g) := by
  intro hne
  cases x with
  | error e =>
    have hy : y = .error e := h fun e' he' heq => hne e' he' (congrArg (Except.map f) heq)
    rw [hy]
    rfl
  | ok b =>
    have hy : y = .ok (change b) := h fun e' _ heq => by cases heq
    rw [hy]
    exact congrArg Except.ok (hread b)

/-- A chain follows when its **first step** does and the next does on each of its values. -/
theorem bind {x y : Except ε α} {f : α → Except ε β} {g : α → Except ε γ}
    (h : Follows kind id x y) (hnext : ∀ a, Follows kind change (f a) (g a)) :
    Follows kind change (x >>= f) (y >>= g) := by
  intro hne
  cases x with
  | error e =>
    -- The chain fails with the error of its first step, so that is not of the kind either.
    have hy : y = .error e := h fun e' he' heq => hne e' he' (congrArg (· >>= f) heq)
    rw [hy]
    rfl
  | ok a =>
    have hy : y = .ok a := h fun e' _ heq => by cases heq
    rw [hy]
    exact hnext a hne

/-- A step for every member follows when it does for **each**. -/
theorem mapM {f g : α → Except ε β} {xs : List α} (h : ∀ x ∈ xs, Follows kind id (f x) (g x)) :
    Follows kind id (xs.mapM f) (xs.mapM g) := by
  induction xs with
  | nil => exact of_eq rfl
  | cons x xs ih =>
    rw [List.forall_mem_cons] at h
    rw [List.mapM_cons, List.mapM_cons]
    exact h.1.bind fun b => (ih h.2).bind fun bs => ok rfl

end Follows

end OmniLayer
