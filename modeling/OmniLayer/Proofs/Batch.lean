import OmniLayer.Proofs.Packets
import OmniLayer.Proofs.Parse
import Mathlib.Logic.Relation

/-! # Batches on several workers

A batch is cut into shares, and a crew works on them: the workers are started one after the other,
each goes through its own share, and their results are taken in the order of their start. A step
changes nothing of what the crew has promised (`Crew.Step.promised_eq`), a crew that is not done has
a step to take (`Crew.exists_step`) and no run goes on for ever (`Crew.wellFounded_step`). So
whatever order the workers run in, the results are those of parsing one transaction after the other
(`Transaction.parseBatch_sequential`). -/

namespace OmniLayer

/-! ## Shares -/

namespace Transaction

variable {α : Type}

/-- The shares join to the work. -/
@[simp] theorem flatten_shares (workers : Nat) (work : List α) :
    (shares workers work).flatten = work :=
  flatten_chunks _ work

/-- No share is empty. -/
theorem ne_nil_of_mem_shares {workers : Nat} {work share : List α}
    (h : share ∈ shares workers work) : share ≠ [] :=
  ne_nil_of_mem_chunks h

/-- There are at most as many shares as workers, and as members of the work. -/
theorem length_shares_le (workers : Nat) (work : List α) :
    (shares workers work).length ≤ max 1 (min workers work.length) := by
  by_cases hwork : work = []
  · rw [hwork, shares, chunks_nil, List.length_nil]
    exact Nat.zero_le _
  · have hlength : 0 < work.length := List.length_pos_iff.2 hwork
    unfold shares
    dsimp only
    generalize hcrew : max 1 (min workers work.length) = crew
    have hpos : 0 < crew := by omega
    have hle : crew ≤ work.length := by omega
    have hdiv := Nat.div_add_mod (work.length + crew - 1) crew
    have hmod := Nat.mod_lt (work.length + crew - 1) hpos
    refine length_chunks_le (Nat.div_pos (by omega) hpos) ?_
    generalize crew * ((work.length + crew - 1) / crew) = covered at hdiv ⊢
    omega

end Transaction

/-! ## Crews -/

/-- A **worker** on its share. -/
structure Worker (α β : Type) where
  /-- The members of the share that are left. -/
  left : List α
  /-- The results for the members before them. -/
  results : List β

/-- A **crew** at work on shares. -/
structure Crew (α β : Type) where
  /-- The shares that no worker was started on yet. -/
  waiting : List (List α)
  /-- The workers that were started and are not awaited yet, in the order of their start. -/
  workers : List (Worker α β)
  /-- The results of the workers that were awaited. -/
  joined : List (List β)

namespace Crew

variable {α β : Type} {task : α → β} {crew next : Crew α β}

/-- The crew for some shares before any worker is started. -/
def assembled (shares : List (List α)) : Crew α β := ⟨shares, [], []⟩

/-- The number of workers started. -/
def started (crew : Crew α β) : Nat := crew.joined.length + crew.workers.length

/-- Whether all workers were started and awaited. -/
def IsDone (crew : Crew α β) : Prop := crew.waiting = [] ∧ crew.workers = []

/-- The results taken so far, in the order of the work. -/
def results (crew : Crew α β) : List β := crew.joined.flatten

/-- A **step** of a crew. Workers may take theirs in any order, the first of them already while
others are still to be started. -/
inductive Step (task : α → β) : Crew α β → Crew α β → Prop
  /-- A worker is started on the next share. -/
  | start (share : List α) (waiting : List (List α)) (workers : List (Worker α β))
      (joined : List (List β)) :
    Step task ⟨share :: waiting, workers, joined⟩ ⟨waiting, workers ++ [⟨share, []⟩], joined⟩
  /-- Some worker does the task for the next member of its share. -/
  | work (waiting : List (List α)) (before : List (Worker α β)) (x : α) (left : List α)
      (results : List β) (after : List (Worker α β)) (joined : List (List β)) :
    Step task ⟨waiting, before ++ ⟨x :: left, results⟩ :: after, joined⟩
      ⟨waiting, before ++ ⟨left, results ++ [task x]⟩ :: after, joined⟩
  /-- Once all workers are started, the oldest one is through, and its results are taken. -/
  | join (results : List β) (workers : List (Worker α β)) (joined : List (List β)) :
    Step task ⟨[], ⟨[], results⟩ :: workers, joined⟩ ⟨[], workers, joined ++ [results]⟩

/-- The crews that some order of steps leads to. -/
def Reaches (task : α → β) : Crew α β → Crew α β → Prop := Relation.ReflTransGen (Step task)

/-- What a crew has **promised**: the results of every share, those still to come included. -/
def promised (task : α → β) (crew : Crew α β) : List (List β) :=
  crew.joined ++ crew.workers.map (fun worker => worker.results ++ worker.left.map task) ++
    crew.waiting.map (List.map task)

/-- The number of steps that a crew has left. -/
def stepsLeft (crew : Crew α β) : Nat :=
  (crew.waiting.map fun share => share.length + 2).sum +
    (crew.workers.map fun worker => worker.left.length + 1).sum

/-- A crew that was just assembled promises the task for every member of its shares. -/
@[simp] theorem promised_assembled (shares : List (List α)) :
    (assembled shares).promised task = shares.map (List.map task) := rfl

/-- A step **keeps every promise**. -/
theorem Step.promised_eq (h : Step task crew next) : next.promised task = crew.promised task := by
  cases h with
  | start share waiting workers joined => simp [promised]
  | work waiting before x left results after joined => simp [promised]
  | join results workers joined => simp [promised]

/-- A step uses up one of those left. -/
theorem Step.stepsLeft_eq (h : Step task crew next) : crew.stepsLeft = next.stepsLeft + 1 := by
  cases h with
  | start share waiting workers joined =>
    simp only [stepsLeft, List.map_cons, List.sum_cons, List.map_append, List.sum_append,
      List.map_nil, List.sum_nil]
    omega
  | work waiting before x left results after joined =>
    simp only [stepsLeft, List.map_cons, List.sum_cons, List.map_append, List.sum_append,
      List.length_cons]
    omega
  | join results workers joined =>
    simp only [stepsLeft, List.map_cons, List.sum_cons, List.map_nil, List.sum_nil,
      List.length_nil]
    omega

/-- No crew works **for ever**. -/
theorem wellFounded_step (task : α → β) : WellFounded fun next crew => Step task crew next := by
  refine Subrelation.wf (fun {next crew} h => ?_) (measure (stepsLeft (α := α) (β := β))).wf
  have hleft : crew.stepsLeft = next.stepsLeft + 1 := h.stepsLeft_eq
  change next.stepsLeft < crew.stepsLeft
  omega

/-- A crew that is not done **has a step to take**: if all workers are started, the oldest one can
go on or be awaited. -/
theorem exists_step (task : α → β) (h : ¬crew.IsDone) : ∃ next, Step task crew next := by
  obtain ⟨waiting, workers, joined⟩ := crew
  cases waiting with
  | cons share waiting => exact ⟨_, .start share waiting workers joined⟩
  | nil =>
    cases workers with
    | nil => exact absurd ⟨rfl, rfl⟩ h
    | cons worker workers =>
      obtain ⟨left, results⟩ := worker
      cases left with
      | nil => exact ⟨_, .join results workers joined⟩
      | cons x left => exact ⟨_, .work [] [] x left results workers joined⟩

/-- Whatever steps are taken, the promises stay. -/
theorem Reaches.promised_eq (h : Reaches task crew next) :
    next.promised task = crew.promised task := by
  induction h with
  | refl => rfl
  | tail _ hstep ih => exact hstep.promised_eq.trans ih

/-- There are at most as many workers started as there are shares. -/
theorem started_le {shares : List (List α)} (h : Reaches task (assembled shares) crew) :
    crew.started ≤ shares.length := by
  have hlength : (crew.promised task).length = shares.length := by
    rw [h.promised_eq, promised_assembled, List.length_map]
  simp only [promised, List.length_append, List.length_map] at hlength
  unfold started
  omega

/-- A crew that is **done** has the results of the task, in the order of the work. -/
theorem results_of_isDone {shares : List (List α)} (h : Reaches task (assembled shares) crew)
    (hdone : crew.IsDone) : crew.results = shares.flatten.map task := by
  have hpromised := h.promised_eq
  rw [promised_assembled, promised, hdone.1, hdone.2] at hpromised
  rw [results, List.map_flatten, ← hpromised]
  simp

end Crew

/-! ## The batch -/

namespace Transaction

variable (params : Params) (coins : CoinLookup) (height time : UInt32)

/-- Results are **gathered** when none of them is one of a parse that broke off. -/
theorem gather_eq_ok_iff {results : List (List ParseResult)} {all : List ParseResult} :
    gather results = .ok all ↔
      (∀ result ∈ results.flatten, result ≠ .error .overflow) ∧ all = results.flatten := by
  have hwhole : results.filter breaksOff = [] ↔
      ∀ result ∈ results.flatten, result ≠ .error .overflow := by
    simp only [List.filter_eq_nil_iff, breaksOff, List.any_eq_true, not_exists, not_and,
      List.mem_flatten, forall_exists_index, and_imp, ParseResult.brokeOff_iff]
    exact ⟨fun h result share hshare hmem => h share hshare result hmem,
      fun h share hshare result hmem => h result share hshare hmem⟩
  rw [← hwhole, gather]
  split
  · rename_i hnil
    rw [Except.ok.injEq]
    exact ⟨fun h => ⟨hnil, h.symm⟩, fun h => h.2.symm⟩
  · rename_i share hone
    constructor
    · intro h
      cases h
    · rintro ⟨h, -⟩
      rw [hone] at h
      cases h
  · rename_i hnone _
    constructor
    · intro h
      cases h
    · rintro ⟨h, -⟩
      exact absurd h hnone

/-- Whoever parses a share, a batch has the results of the work, unless the parse of a transaction
**breaks off**. -/
theorem parseBatch_eq_ok_iff {threads : Nat} {txs : List Transaction}
    {results : List ParseResult} :
    parseBatch params coins height time threads txs = .ok results ↔
      (∀ tx ∈ txs, parse params coins height time tx ≠ .error .overflow) ∧
        results = txs.map (parse params coins height time) := by
  have hbatch : parseBatch params coins height time threads txs
      = gather ((shares threads txs).map (List.map (parse params coins height time))) := by
    rw [parseBatch, List.map_map]
    rfl
  rw [hbatch, gather_eq_ok_iff, ← List.map_flatten, flatten_shares, List.forall_mem_map]

/-- **A batch is parsed as if in sequence**: if no parse breaks off, its results are those of the
single transactions, in their order, and otherwise it has none. No worker gets an empty share, and
whatever order the workers run in, at most as many are started as there are threads and
transactions, no run goes on for ever, and a run that cannot go on has the results of the single
transactions. -/
theorem parseBatch_sequential (threads : Nat) (txs : List Transaction) :
    (∀ results, parseBatch params coins height time threads txs = .ok results ↔
        (∀ tx ∈ txs, parse params coins height time tx ≠ .error .overflow) ∧
          results = txs.map (parse params coins height time)) ∧
      (∀ share ∈ shares threads txs, share ≠ []) ∧
      WellFounded (fun next crew => Crew.Step (parse params coins height time) crew next) ∧
      ∀ crew, Crew.Reaches (parse params coins height time) (.assembled (shares threads txs)) crew →
        crew.started ≤ max 1 (min threads txs.length) ∧
        ((∃ next, Crew.Step (parse params coins height time) crew next) ∨
          crew.IsDone ∧ crew.results = txs.map (parse params coins height time)) := by
  refine ⟨fun results => parseBatch_eq_ok_iff params coins height time,
    fun share => ne_nil_of_mem_shares, Crew.wellFounded_step _, ?_⟩
  intro crew hreach
  refine ⟨(Crew.started_le hreach).trans (length_shares_le threads txs), ?_⟩
  by_cases hdone : crew.IsDone
  · refine Or.inr ⟨hdone, ?_⟩
    rw [Crew.results_of_isDone hreach hdone, flatten_shares]
  · exact Or.inl (Crew.exists_step _ hdone)

/-- A transaction that splits the marker over two pushes. -/
def markerSplit : Transaction :=
  spending [⟨0, Script.opReturn :: (Script.push (Params.bitcoin.marker.bytes.take 2) ++
    Script.push (Params.bitcoin.marker.bytes.drop 2))⟩]

/-- Three transactions of which one carries a message, one carries none, and one is malformed. -/
def mixedWork : List Transaction := [markerAlone, spending [], markerSplit]

/-- Of two workers on the three transactions, the second may be through before the first one begins;
the results, of three kinds, are in the order of the transactions all the same. -/
theorem parseBatch_sequential_secondFirst :
    ∃ crew, Crew.Reaches (parse Params.bitcoin spentCoins 400000 0)
        (.assembled (shares 2 mixedWork)) crew ∧
      crew.started = 2 ∧
      parseBatch Params.bitcoin spentCoins 400000 0 2 mixedWork = .ok crew.results ∧
      crew.results.map (fun result => result.toOption.map Outcome.isProtocol)
        = [some true, some false, none] := by
  have hshares : shares 2 mixedWork = [[markerAlone, spending []], [markerSplit]] := by
    simp [shares, chunks, mixedWork]
  have hkinds : (mixedWork.map (parse Params.bitcoin spentCoins 400000 0)).map
      (fun result => (result.brokeOff, result.toOption.map Outcome.isProtocol))
        = [(false, some true), (false, some false), (false, none)] := by
    decide +kernel
  have hbatch := parseBatch_sequential Params.bitcoin spentCoins 400000 0 2 mixedWork
  rw [hshares] at hbatch ⊢
  generalize parse Params.bitcoin spentCoins 400000 0 = task at hbatch hkinds ⊢
  have hreach : Crew.Reaches task (.assembled [[markerAlone, spending []], [markerSplit]])
      ⟨[], [], [[task markerAlone, task (spending [])], [task markerSplit]]⟩ := by
    refine .head (.start ..) (.head (.start ..) ?_)
    refine .head (.work [] [⟨_, []⟩] _ _ _ [] []) ?_
    refine .head (.work [] [] _ _ _ [_] []) (.head (.work [] [] _ _ _ [_] []) ?_)
    exact .head (.join ..) (.head (.join ..) .refl)
  simp only [mixedWork, List.map_cons, List.map_nil, List.cons.injEq, Prod.mk.injEq, and_true]
    at hkinds
  obtain ⟨⟨hfirst, hfirst'⟩, ⟨hsecond, hsecond'⟩, hthird, hthird'⟩ := hkinds
  have hwhole (tx : Transaction) (htx : tx ∈ mixedWork) : task tx ≠ .error .overflow := by
    rw [ne_eq, ← ParseResult.brokeOff_iff]
    rcases htx with _ | ⟨_, _ | ⟨_, _ | ⟨_, ⟨⟩⟩⟩⟩
    · simp [hfirst]
    · simp [hsecond]
    · simp [hthird]
  refine ⟨_, hreach, rfl, ?_, ?_⟩
  · -- Nothing is left to do, so there is no step to take.
    rcases (hbatch.2.2.2 _ hreach).2 with ⟨next, hstep⟩ | ⟨-, hresults⟩
    · exact absurd hstep.stepsLeft_eq (Nat.succ_ne_zero _).symm
    · exact (hbatch.1 _).2 ⟨hwhole, hresults⟩
  · simp [Crew.results, hfirst', hsecond', hthird']

end Transaction

end OmniLayer
