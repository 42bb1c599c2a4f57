import Mathlib.Data.List.DropRight
import OmniLayer.Proofs.FinMap
import OmniLayer.Proofs.Node.Archive

/-! # What a cache holds and counts

Whatever is done with a cache, through whichever handle on it, goes into one log. What the cache
holds is the map of the transactions that were put into it since it was last cleared, and what it
counts are the lookups since then (`Cache.Reflects`). One action keeps this
(`Cache.Reflects.perform`), so it holds of every cache after every run, however many handles there
are on it and whatever is done with other caches (`CacheRun.isReflected_ofSteps`). -/

namespace OmniLayer

/-! ## Actions and their log -/

/-- What may be **done** with a cache. -/
inductive CacheAction
  /-- A transaction is put into it. -/
  | put (tx : Transaction)
  /-- A transaction is looked up. -/
  | get (txid : Txid)
  /-- Everything is dropped. -/
  | clear
  /-- The counts of lookups are read. -/
  | stats
  /-- The number of transactions is read. -/
  | size
  deriving DecidableEq, Repr

/-- What a cache **answers**. -/
inductive CacheAnswer
  /-- It was changed. -/
  | done
  /-- The transaction that was looked up, if there is one. -/
  | found (tx : Option Transaction)
  /-- The counts of lookups. -/
  | stats (stats : CacheStats)
  /-- The number of transactions. -/
  | size (count : Nat)
  deriving DecidableEq, Repr

/-- **Does** something with a cache. -/
def Cache.perform (cache : Cache) : CacheAction → CacheAnswer × Cache
  | .put tx => (.done, cache.put tx)
  | .get txid => (.found (cache.get txid).1, (cache.get txid).2)
  | .clear => (.done, cache.clear)
  | .stats => (.stats cache.stats, cache)
  | .size => (.size cache.size, cache)

/-- An entry of a **log**: what was done with which cache, and what it answered. -/
structure CacheEvent where
  /-- The index of the cache. -/
  target : Nat
  /-- What was done. -/
  action : CacheAction
  /-- What was answered. -/
  answer : CacheAnswer
  deriving DecidableEq, Repr

namespace CacheEvent

/-- The transaction that was put into the cache. -/
def put? (event : CacheEvent) : Option Transaction :=
  match event.action with
  | .put tx => some tx
  | _ => none

/-- Whether a transaction was looked up. -/
def isGet (event : CacheEvent) : Bool :=
  match event.action with
  | .get _ => true
  | _ => false

/-- Whether a transaction was looked up and found. -/
def isHit (event : CacheEvent) : Bool :=
  match event.answer with
  | .found (some _) => true
  | _ => false

/-- What was found was a hit if it is something. -/
@[simp] theorem isHit_found (target : Nat) (action : CacheAction) (tx : Option Transaction) :
    isHit ⟨target, action, .found tx⟩ = tx.isSome := by
  cases tx <;> rfl

/-- The transactions that were **put** into a cache, the last one behind. -/
def puts (log : List CacheEvent) : List Transaction := log.filterMap put?

/-- One more event may put one more transaction there. -/
@[simp] theorem puts_concat (log : List CacheEvent) (event : CacheEvent) :
    puts (log ++ [event]) = puts log ++ event.put?.toList := by
  rw [puts, List.filterMap_append]
  cases hput : event.put? <;> simp [puts, hput]

/-- The events **since the cache was last cleared**. -/
def sinceClear (log : List CacheEvent) : List CacheEvent :=
  log.rtakeWhile fun event => event.action ≠ .clear

/-- One more event stands behind the others, unless it clears the cache. -/
@[simp] theorem sinceClear_concat (log : List CacheEvent) (event : CacheEvent) :
    sinceClear (log ++ [event])
      = if event.action = .clear then [] else sinceClear log ++ [event] := by
  rw [sinceClear, List.rtakeWhile_concat]
  simp only [decide_eq_true_eq, ite_not]
  rfl

end CacheEvent

open CacheEvent

/-- The counts as the 64-bit **words** in which they are kept; a word starts again at zero behind
the largest. -/
def CacheStats.words (stats : CacheStats) : UInt64 × UInt64 :=
  (UInt64.ofNat stats.hits, UInt64.ofNat stats.misses)

/-! ## What a log tells of a cache -/

namespace Cache

variable {cache : Cache} {log : List CacheEvent} {txid : Txid} {tx : Transaction}

/-- Whether a cache **holds and counts** what a log says: what was put into it, under the
identifiers of the transactions, and how often something was looked up and found. -/
structure Reflects (cache : Cache) (log : List CacheEvent) : Prop where
  /-- What is held is the map of what was put there. -/
  entries : cache.entries = FinMap.ofList ((puts log).map fun tx => (tx.txid, tx))
  /-- The lookups that found a transaction are counted. -/
  hits : cache.stats.hits = log.countP isHit
  /-- All lookups are counted. -/
  total : cache.stats.total = log.countP isGet

/-- A new cache reflects that nothing was done. -/
theorem reflects_empty : Cache.empty.Reflects [] := ⟨rfl, rfl, rfl⟩

/-- A lookup finds what is held. -/
@[simp] theorem get_fst (cache : Cache) (txid : Txid) :
    (cache.get txid).1 = cache.entries.get? txid := by
  unfold get
  cases cache.entries.get? txid <;> rfl

/-- A lookup leaves what is held as it is. -/
@[simp] theorem entries_get (cache : Cache) (txid : Txid) :
    (cache.get txid).2.entries = cache.entries := by
  unfold get
  cases cache.entries.get? txid <;> rfl

/-- A lookup that finds a transaction is a **hit**. -/
theorem hits_get (cache : Cache) (txid : Txid) :
    (cache.get txid).2.stats.hits
      = cache.stats.hits + if (cache.get txid).1.isSome then 1 else 0 := by
  unfold get
  cases cache.entries.get? txid <;> rfl

/-- Every lookup is **counted**. -/
@[simp] theorem total_get (cache : Cache) (txid : Txid) :
    (cache.get txid).2.stats.total = cache.stats.total + 1 := by
  unfold get CacheStats.total
  cases cache.entries.get? txid with
  | none => rfl
  | some tx => exact Nat.succ_add_eq_add_succ _ _

/-- What neither puts a transaction nor looks one up adds nothing to what is reflected. -/
theorem Reflects.concat {event : CacheEvent} (h : cache.Reflects log) (hput : event.put? = none)
    (hget : event.isGet = false) (hhit : event.isHit = false) :
    cache.Reflects (log ++ [event]) where
  entries := by rw [puts_concat, hput, h.entries, Option.toList_none, List.append_nil]
  hits := by rw [List.countP_append, List.countP_singleton, hhit, h.hits]; rfl
  total := by rw [List.countP_append, List.countP_singleton, hget, h.total]; rfl

/-- **One action** is reflected, as long as those before it were. -/
theorem Reflects.perform (h : cache.Reflects (sinceClear log)) (target : Nat)
    (action : CacheAction) :
    (cache.perform action).2.Reflects
      (sinceClear (log ++ [⟨target, action, (cache.perform action).1⟩])) := by
  rw [sinceClear_concat]
  cases action with
  | put tx =>
    rw [if_neg nofun]
    refine ⟨?_, ?_, ?_⟩
    · rw [puts_concat, List.map_append]
      show cache.entries.insert tx.txid tx = FinMap.ofList (_ ++ [(tx.txid, tx)])
      rw [FinMap.ofList_concat, h.entries]
    · rw [List.countP_append, ← h.hits]
      rfl
    · rw [List.countP_append, ← h.total]
      rfl
  | get txid =>
    rw [if_neg nofun]
    refine ⟨?_, ?_, ?_⟩
    · rw [puts_concat]
      show (cache.get txid).2.entries = FinMap.ofList ((_ ++ []).map _)
      rw [entries_get, h.entries, List.append_nil]
    · show (cache.get txid).2.stats.hits
        = List.countP isHit (_ ++ [⟨target, .get txid, .found (cache.get txid).1⟩])
      rw [List.countP_append, List.countP_singleton, isHit_found, ← h.hits, hits_get]
    · rw [List.countP_append, ← h.total]
      exact total_get cache txid
  | clear =>
    rw [if_pos rfl]
    exact reflects_empty
  | stats =>
    rw [if_neg nofun]
    exact h.concat rfl rfl rfl
  | size =>
    rw [if_neg nofun]
    exact h.concat rfl rfl rfl

/-! ## What a cache answers -/

/-- What a cache **answers** that holds and counts what a log says. -/
structure Answers (cache : Cache) (log : List CacheEvent) : Prop where
  /-- A lookup finds the **last** transaction with the identifier that was put there. -/
  get_eq_some_iff : ∀ txid tx, (cache.get txid).1 = some tx ↔
    ∃ before after, puts log = before ++ tx :: after ∧ tx.txid = txid ∧
      ∀ later ∈ after, later.txid ≠ txid
  /-- It finds one whenever one was put there. -/
  isSome_get_iff : ∀ txid, (cache.get txid).1.isSome ↔ ∃ tx ∈ puts log, tx.txid = txid
  /-- The size is the number of **different** identifiers that were put there. -/
  size_eq : cache.size = ((puts log).map Transaction.txid).toFinset.card
  /-- The hits are the lookups that **found** a transaction. -/
  hits_eq : cache.stats.hits = log.countP isHit
  /-- Hits and misses together are **all** lookups. -/
  hits_add_misses : cache.stats.hits + cache.stats.misses = log.countP isGet
  /-- The words in which the counts are kept are these numbers, as long as they are words. -/
  words_eq : log.countP isGet < UInt64.size →
    cache.stats.words.1.toNat = log.countP isHit ∧
      cache.stats.words.1.toNat + cache.stats.words.2.toNat = log.countP isGet

/-- A cache that reflects a log **answers** by it. -/
theorem Reflects.answers (h : cache.Reflects log) : cache.Answers log := by
  have hkeys : ((puts log).map fun tx => (tx.txid, tx)).map Prod.fst
      = (puts log).map Transaction.txid := by
    rw [List.map_map]
    rfl
  refine ⟨fun txid tx => ?_, fun txid => ?_, ?_, h.hits, h.total, fun hwords => ?_⟩
  · rw [get_fst, h.entries, FinMap.get?_ofList_eq_some_iff]
    constructor
    · rintro ⟨before, after, hputs, hafter⟩
      obtain ⟨before', rest, hsplit, rfl, hrest⟩ := List.map_eq_append_iff.1 hputs
      obtain ⟨tx', after', rfl, htx, rfl⟩ := List.map_eq_cons_iff.1 hrest
      cases htx
      refine ⟨before', after', hsplit, rfl, fun later hlater heq => hafter ?_⟩
      rw [List.map_map]
      exact List.mem_map.2 ⟨later, hlater, heq⟩
    · rintro ⟨before, after, hputs, rfl, hafter⟩
      refine ⟨_, _, by rw [hputs, List.map_append, List.map_cons], fun hmem => ?_⟩
      rw [List.map_map] at hmem
      obtain ⟨later, hlater, heq⟩ := List.mem_map.1 hmem
      exact hafter later hlater heq
  · rw [get_fst, h.entries, Option.isSome_iff_exists, FinMap.exists_get?_ofList_iff, hkeys,
      List.mem_map]
  · rw [size, h.entries, FinMap.size_ofList, hkeys]
  · have htotal : cache.stats.hits + cache.stats.misses = log.countP isGet := h.total
    have hhits : cache.stats.words.1.toNat = cache.stats.hits :=
      UInt64.toNat_ofNat_of_lt' (by omega)
    have hmisses : cache.stats.words.2.toNat = cache.stats.misses :=
      UInt64.toNat_ofNat_of_lt' (by omega)
    rw [hhits, hmisses]
    exact ⟨h.hits, htotal⟩

end Cache

/-! ## Handles -/

/-- A **step** of a program with handles on caches. -/
inductive CacheStep
  /-- Something is done through a handle. -/
  | act (handle : Nat) (action : CacheAction)
  /-- A handle is cloned. -/
  | clone (handle : Nat)
  /-- A handle on a new cache is made. -/
  | new
  deriving DecidableEq, Repr

/-- A **run** of steps: the handles that there are, and the log of what was done through them. -/
structure CacheRun where
  /-- The handles. -/
  handles : CacheHandles
  /-- The log. -/
  log : List CacheEvent

namespace CacheHandles

variable {handles : CacheHandles} {handle target : Nat} {cache : Cache}

/-- The cache of a handle is the one that it is on. -/
theorem cache_of_target (htarget : handles.targets[handle]? = some target)
    (hcache : handles.caches[target]? = some cache) : handles.cache handle = cache := by
  rw [CacheHandles.cache, htarget, Option.bind_some, hcache, Option.getD_some]

/-- A change through a handle is one of the cache that it is on. -/
theorem update_of_target (htarget : handles.targets[handle]? = some target)
    (change : Cache → Cache) :
    handles.update handle change
      = { handles with caches := handles.caches.modify target change } := by
  rw [update, htarget]

end CacheHandles

namespace CacheRun

/-- Nothing was done yet with one handle on one empty cache. -/
def initial : CacheRun := ⟨.initial, []⟩

/-- One **step**. Through a handle that does not exist nothing is done. -/
def step (run : CacheRun) : CacheStep → CacheRun
  | .act handle action =>
    match run.handles.targets[handle]? with
    | none => run
    | some target =>
      let answer := ((run.handles.cache handle).perform action).1
      { handles := run.handles.update handle fun cache => (cache.perform action).2
        log := run.log ++ [⟨target, action, answer⟩] }
  | .clone handle => { run with handles := run.handles.clone handle }
  | .new => { run with handles := run.handles.add }

/-- The run of **some steps**. -/
def ofSteps (steps : List CacheStep) : CacheRun := steps.foldl step initial

/-- The log of **one** of the caches. -/
def logOf (run : CacheRun) (target : Nat) : List CacheEvent :=
  run.log.filter fun event => event.target = target

variable {run : CacheRun} {handle target : Nat}

/-- Whether every handle and every event belongs to a cache, and every cache **reflects its log**
since it was last cleared. -/
structure IsReflected (run : CacheRun) : Prop where
  /-- There is a cache. -/
  pos : 0 < run.handles.caches.length
  /-- Handles are on caches that there are. -/
  target_lt : ∀ target ∈ run.handles.targets, target < run.handles.caches.length
  /-- Events are of caches that there are. -/
  event_lt : ∀ event ∈ run.log, event.target < run.handles.caches.length
  /-- Caches reflect their logs. -/
  reflects : ∀ target (cache : Cache), run.handles.caches[target]? = some cache →
    cache.Reflects (sinceClear (run.logOf target))

/-- One more event is one of its own cache. -/
theorem logOf_concat (log : List CacheEvent) (handles : CacheHandles) (event : CacheEvent)
    (target : Nat) :
    logOf ⟨handles, log ++ [event]⟩ target
      = log.filter (fun event => event.target = target) ++
        if event.target = target then [event] else [] := by
  rw [logOf, List.filter_append, List.filter_singleton]
  simp

/-- Nothing is reflected by nothing. -/
theorem isReflected_initial : initial.IsReflected where
  pos := by decide
  target_lt := by decide
  event_lt := nofun
  reflects target cache hcache := by
    cases target with
    | zero =>
      cases hcache
      exact Cache.reflects_empty
    | succ target => cases hcache

/-- What is done **through a handle** is one more event of the cache that it is on. -/
theorem IsReflected.act (h : run.IsReflected) (handle : Nat) (action : CacheAction) :
    (run.step (.act handle action)).IsReflected := by
  rw [CacheRun.step]
  cases htarget : run.handles.targets[handle]? with
  | none => exact h
  | some target =>
    have hlt : target < run.handles.caches.length :=
      h.target_lt target (List.mem_of_getElem? htarget)
    have hget : run.handles.caches[target]? = some run.handles.caches[target] :=
      List.getElem?_eq_getElem hlt
    have hcache : run.handles.cache handle = run.handles.caches[target] :=
      CacheHandles.cache_of_target htarget hget
    dsimp only
    rw [CacheHandles.update_of_target htarget, hcache]
    refine ⟨?_, ?_, ?_, ?_⟩
    · rw [List.length_modify]
      exact h.pos
    · rw [List.length_modify]
      exact h.target_lt
    · rw [List.length_modify]
      intro event hevent
      rcases List.mem_append.1 hevent with hevent | hevent
      · exact h.event_lt event hevent
      · rw [List.mem_singleton.1 hevent]
        exact hlt
    · intro other cache hother
      rw [logOf_concat]
      dsimp only at hother ⊢
      by_cases heq : target = other
      · subst heq
        rw [List.getElem?_modify_eq, hget] at hother
        cases hother
        rw [if_pos rfl]
        exact (h.reflects target _ hget).perform target action
      · -- The other caches are as they were, and have no new event.
        rw [List.getElem?_modify_ne _ _ heq] at hother
        rw [if_neg heq, List.append_nil]
        exact h.reflects other cache hother

/-- A **clone** is on a cache that there is. -/
theorem IsReflected.clone (h : run.IsReflected) (handle : Nat) :
    (run.step (.clone handle)).IsReflected := by
  refine ⟨h.pos, fun target htarget => ?_, h.event_lt, h.reflects⟩
  rcases List.mem_append.1 htarget with htarget | htarget
  · exact h.target_lt target htarget
  · rw [List.mem_singleton.1 htarget]
    cases hcloned : run.handles.targets[handle]? with
    | none => exact h.pos
    | some cloned => exact h.target_lt cloned (List.mem_of_getElem? hcloned)

/-- A **new cache** is empty, and there is no event of it. -/
theorem IsReflected.new (h : run.IsReflected) : (run.step .new).IsReflected := by
  have hlength : (run.step .new).handles.caches.length = run.handles.caches.length + 1 :=
    List.length_append
  refine ⟨?_, fun target htarget => ?_, fun event hevent => ?_, fun target cache hcache => ?_⟩
  · rw [hlength]
    exact Nat.succ_pos _
  · rw [hlength]
    rcases List.mem_append.1 htarget with htarget | htarget
    · exact Nat.lt_succ_of_lt (h.target_lt target htarget)
    · rw [List.mem_singleton.1 htarget]
      exact Nat.lt_succ_self _
  · rw [hlength]
    exact Nat.lt_succ_of_lt (h.event_lt event hevent)
  · have hcache : (run.handles.caches ++ [Cache.empty])[target]? = some cache := hcache
    by_cases hlt : target < run.handles.caches.length
    · rw [List.getElem?_append_left hlt] at hcache
      exact h.reflects target cache hcache
    · rw [List.getElem?_append_right (Nat.le_of_not_lt hlt), List.getElem?_singleton] at hcache
      have hempty : run.logOf target = [] :=
        List.filter_eq_nil_iff.2 fun event hevent => by
          have hevent := h.event_lt event hevent
          simp only [decide_eq_true_eq]
          omega
      split at hcache
      · cases hcache
        show Cache.empty.Reflects (sinceClear (run.logOf target))
        rw [hempty]
        exact Cache.reflects_empty
      · cases hcache

/-- **One step** keeps every cache reflecting its log. -/
theorem IsReflected.step (h : run.IsReflected) (step : CacheStep) :
    (run.step step).IsReflected := by
  cases step with
  | act handle action => exact h.act handle action
  | clone handle => exact h.clone handle
  | new => exact h.new

/-- **Every run** keeps every cache reflecting its log. -/
theorem isReflected_ofSteps (steps : List CacheStep) : (ofSteps steps).IsReflected := by
  induction steps using List.reverseRecOn with
  | nil => exact isReflected_initial
  | append_singleton steps step ih =>
    rw [ofSteps, List.foldl_append]
    exact ih.step step

/-- Steps that make no new cache leave **one cache**. -/
theorem length_caches_ofSteps {steps : List CacheStep} (h : .new ∉ steps) :
    (ofSteps steps).handles.caches.length = 1 := by
  induction steps using List.reverseRecOn with
  | nil => rfl
  | append_singleton steps step ih =>
    have ih := ih fun hmem => h (List.mem_append_left _ hmem)
    rw [ofSteps, List.foldl_append, List.foldl_cons, List.foldl_nil]
    rw [ofSteps] at ih
    cases step with
    | act handle action =>
      rw [CacheRun.step]
      cases htarget : (steps.foldl CacheRun.step initial).handles.targets[handle]? with
      | none => exact ih
      | some target =>
        dsimp only
        rw [CacheHandles.update_of_target htarget, List.length_modify]
        exact ih
    | clone handle => exact ih
    | new => exact absurd (List.mem_append_right _ List.mem_cons_self) h

/-- With one cache, its log is **the whole log**. -/
theorem logOf_ofSteps {steps : List CacheStep} (h : .new ∉ steps)
    (htarget : target ∈ (ofSteps steps).handles.targets) :
    (ofSteps steps).logOf target = (ofSteps steps).log := by
  have hreflected := isReflected_ofSteps steps
  have hlength := length_caches_ofSteps h
  refine List.filter_eq_self.2 fun event hevent => decide_eq_true ?_
  have hevent := hreflected.event_lt event hevent
  have htarget := hreflected.target_lt target htarget
  omega

/-- Through whichever handle, a cache **answers by everything** that was done with it through all
of its handles since it was last cleared; other caches have no part in it. Where no other cache is
made, that is everything that was done at all. -/
theorem answers_ofSteps (steps : List CacheStep)
    (htarget : (ofSteps steps).handles.targets[handle]? = some target) :
    ((ofSteps steps).handles.cache handle).Answers (sinceClear ((ofSteps steps).logOf target)) ∧
      (.new ∉ steps → (ofSteps steps).logOf target = (ofSteps steps).log) := by
  have hreflected := isReflected_ofSteps steps
  have hmem : target ∈ (ofSteps steps).handles.targets := List.mem_of_getElem? htarget
  have hget := List.getElem?_eq_getElem (hreflected.target_lt target hmem)
  refine ⟨?_, fun h => logOf_ofSteps h hmem⟩
  rw [CacheHandles.cache_of_target htarget hget]
  exact (hreflected.reflects target _ hget).answers

end CacheRun

/-! ## A transaction put again with another witness -/

open Transaction

/-- The transaction that makes a coin, with a **witness**. -/
def Transaction.mintingWitnessed : Transaction :=
  { minting with inputs := [⟨⟨⟨FixedBytes.zero 32⟩, 0xffffffff⟩, [], 0xffffffff, [[1]]⟩] }

/-- It has the same identifier as without. -/
theorem Transaction.txid_mintingWitnessed : mintingWitnessed.txid = mintingTxid := txid_minting

/-- Steps with two handles on one cache and one on another: a transaction is put into the first
cache, which is then cleared, put there again and once more with a witness. What is put into the
other cache is looked up in the first. -/
def CacheStep.remint : List CacheStep :=
  [.act 0 (.get mintingTxid), .act 0 (.put minting), .clone 0, .act 1 (.get mintingTxid),
    .act 1 .clear, .act 1 (.put minting), .new, .act 2 (.put spendingMinted),
    .act 0 (.put mintingWitnessed), .act 1 (.get mintingTxid), .act 0 (.get spendingMintedTxid)]

/-- The clone finds the transaction **as it was put last**; it is counted once, as are the one
lookup since the cache was cleared that found it and the one that found nothing. -/
theorem CacheRun.answers_remint :
    let run := ofSteps CacheStep.remint
    run.handles.targets[1]? = some 0 ∧
      ((run.handles.cache 1).get mintingTxid).1 = some mintingWitnessed ∧
      (run.handles.cache 1).size = 1 ∧ (run.handles.cache 1).stats.hits = 1 ∧
      (run.handles.cache 1).stats.hits + (run.handles.cache 1).stats.misses = 2 := by
  have htarget : (ofSteps CacheStep.remint).handles.targets[1]? = some 0 := by decide +kernel
  have h := (answers_ofSteps CacheStep.remint htarget).1
  have hputs : puts (sinceClear ((ofSteps CacheStep.remint).logOf 0))
      = [minting, mintingWitnessed] := by decide +kernel
  have hhits : (sinceClear ((ofSteps CacheStep.remint).logOf 0)).countP isHit = 1 := by
    decide +kernel
  have hgets : (sinceClear ((ofSteps CacheStep.remint).logOf 0)).countP isGet = 2 := by
    decide +kernel
  refine ⟨htarget, ?_, ?_, h.hits_eq.trans hhits, h.hits_add_misses.trans hgets⟩
  · refine (h.get_eq_some_iff _ _).2 ⟨[minting], [], hputs, txid_mintingWitnessed, nofun⟩
  · rw [h.size_eq, hputs, List.map_cons, List.map_cons, List.map_nil, txid_minting,
      txid_mintingWitnessed]
    decide

end OmniLayer
