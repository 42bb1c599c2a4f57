import OmniLayer.Proofs.Coins
import OmniLayer.Proofs.Decode
import OmniLayer.Proofs.FinMap
import OmniLayer.Proofs.Node.Archive

/-! # A snapshot holds what was written last

A snapshot starts from coins that are listed, and grows by single coins, by the outputs of
transactions and by other snapshots. Each of these steps writes coins at some outpoints
(`CoinStep.written?`) and leaves the others alone (`CoinView.resolve_perform`). So, whatever the
steps, the coin at an outpoint is the one that the last step wrote that wrote there, and the size
counts the outpoints that were written (`CoinView.Remembers`). Merging snapshots is such a step, and
its laws are those of maps written over each other (`CoinView.MergeLaws`). -/

namespace OmniLayer

/-! ## Steps -/

/-- A **step** that writes coins into a snapshot. -/
inductive CoinStep
  /-- One coin is inserted. -/
  | insert (outpoint : OutPoint) (coin : Output)
  /-- The outputs of a transaction are added. -/
  | addTransaction (tx : Transaction)
  /-- The coins of another snapshot are taken. -/
  | merge (other : CoinView)

/-- The coin that a step **writes** at an outpoint. -/
def CoinStep.written? : CoinStep → OutPoint → Option Output
  | .insert outpoint coin, o => if outpoint = o then some coin else none
  | .addTransaction tx, o => if tx.txid = o.txid then tx.numbered? o.vout else none
  | .merge other, o => other.resolve o

/-- A transaction writes **its outputs**, each at the outpoint with its place, as long as places are
words. -/
theorem CoinStep.written?_addTransaction {tx : Transaction}
    (h : tx.outputs.length ≤ UInt32.size) (o : OutPoint) (coin : Output) :
    (CoinStep.addTransaction tx).written? o = some coin ↔
      ∃ place, tx.outputs[place]? = some coin ∧ o = ⟨tx.txid, UInt32.ofNat place⟩ := by
  rw [written?, Option.ite_none_right_eq_some, Transaction.numbered?_eq_getElem? h]
  constructor
  · rintro ⟨htxid, hcoin⟩
    exact ⟨o.vout.toNat, hcoin, by rw [htxid, UInt32.ofNat_toNat]⟩
  · rintro ⟨place, hcoin, rfl⟩
    have hplace : place < tx.outputs.length := (List.getElem?_eq_some_iff.1 hcoin).1
    rw [UInt32.toNat_ofNat_of_lt' (Nat.lt_of_lt_of_le hplace h)]
    exact ⟨rfl, hcoin⟩

namespace CoinView

variable {view : CoinView} {history : List CoinStep}

/-- **Takes** a step. -/
def perform (view : CoinView) : CoinStep → CoinView
  | .insert outpoint coin => FinMap.insert view outpoint coin
  | .addTransaction tx => view.addTransaction tx
  | .merge other => FinMap.merge view other

/-- The snapshot behind **some steps**. -/
def after (view : CoinView) (steps : List CoinStep) : CoinView := steps.foldl perform view

/-- A step **replaces** the coins at the outpoints that it writes, and no others. -/
@[simp] theorem resolve_perform (view : CoinView) (step : CoinStep) (o : OutPoint) :
    (view.perform step).resolve o = (step.written? o).or (view.resolve o) := by
  cases step with
  | insert outpoint coin =>
    rw [perform, resolve, FinMap.get?_insert, CoinStep.written?]
    split <;> rfl
  | addTransaction tx => exact resolve_addTransaction view tx o
  | merge other => exact resolve_merge view other o

/-- Behind some steps, the coin is the one that was **written last**, or else the one before. -/
@[simp] theorem resolve_after (view : CoinView) (steps : List CoinStep) (o : OutPoint) :
    (view.after steps).resolve o
      = (steps.reverse.findSome? (·.written? o)).or (view.resolve o) := by
  induction steps generalizing view with
  | nil => rfl
  | cons step rest ih =>
    change ((view.perform step).after rest).resolve o = _
    rw [ih, resolve_perform, List.reverse_cons, List.findSome?_append, List.findSome?_singleton,
      Option.or_assoc]

/-- Listed coins are **inserted** one by one. -/
theorem after_insert (pairs : List (OutPoint × Output)) :
    CoinView.after FinMap.empty (pairs.map fun pair => .insert pair.1 pair.2)
      = FinMap.ofList pairs := by
  rw [after, List.foldl_map]
  rfl

/-- What a snapshot holds whose coins were written by some steps, the last one behind. -/
structure Remembers (view : CoinView) (history : List CoinStep) : Prop where
  /-- The coin at an outpoint is the one of the **last step that wrote** there. -/
  resolve_eq_some_iff : ∀ o coin, view.resolve o = some coin ↔
    ∃ before step after, history = before ++ step :: after ∧ step.written? o = some coin ∧
      ∀ later ∈ after, later.written? o = none
  /-- The coin is **missing** when no step wrote there. -/
  coin_eq_missing_iff : ∀ o,
    Sender.coin view.resolve o = .error (.unresolvableSender (.missingCoin o)) ↔
      ∀ step ∈ history, step.written? o = none
  /-- The size is the number of **different outpoints** that were written. -/
  size_eq : ∃ outpoints : Finset OutPoint,
    (∀ o, o ∈ outpoints ↔ ∃ step ∈ history, step.written? o ≠ none) ∧
      FinMap.size view = outpoints.card

/-- A coin is reported as missing when the snapshot has none. -/
@[simp] theorem coin_eq_missing_iff (view : CoinView) (o : OutPoint) :
    Sender.coin view.resolve o = .error (.unresolvableSender (.missingCoin o)) ↔
      view.resolve o = none := by
  unfold Sender.coin
  cases view.resolve o with
  | none => exact iff_of_true rfl rfl
  | some coin => exact iff_of_false nofun nofun

/-- A snapshot behind steps alone **remembers** them. -/
theorem remembers_after (history : List CoinStep) :
    (CoinView.after FinMap.empty history).Remembers history := by
  have hresolve (o : OutPoint) : (CoinView.after FinMap.empty history).resolve o
      = history.reverse.findSome? (·.written? o) := by
    rw [resolve_after]
    exact Option.or_none
  have hnone (o : OutPoint) : (CoinView.after FinMap.empty history).resolve o = none ↔
      ∀ step ∈ history, step.written? o = none := by
    rw [hresolve, List.findSome?_eq_none_iff]
    exact forall_congr' fun step => by rw [List.mem_reverse]
  refine ⟨fun o coin => ?_, fun o => ?_, FinMap.keys (after FinMap.empty history), fun o => ?_,
    (FinMap.card_keys _).symm⟩
  · rw [hresolve, FinMap.findSome?_reverse_eq_some_iff]
  · rw [coin_eq_missing_iff, hnone]
  · rw [FinMap.mem_keys_iff, ← Option.ne_none_iff_exists']
    change (after FinMap.empty history).resolve o ≠ none ↔ _
    simpa only [ne_eq, not_forall, exists_prop] using not_congr (hnone o)

/-! ## Merging -/

/-- What **merging** snapshots comes to, wherever the coins in them were written. -/
structure MergeLaws : Prop where
  /-- Merging is associative. -/
  assoc : ∀ a b c : CoinView, ((a.merge b).merge c).Same (a.merge (b.merge c))
  /-- The empty snapshot takes over what is merged into it, -/
  empty_merge : ∀ a : CoinView, (FinMap.merge FinMap.empty a).Same a
  /-- and changes nothing. -/
  merge_empty : ∀ a : CoinView, (a.merge FinMap.empty).Same a
  /-- Where both have a coin, that of the snapshot that is taken **stays**. -/
  resolve_merge : ∀ (a b : CoinView) o,
    CoinView.resolve (a.merge b) o = (b.resolve o).or (a.resolve o)
  /-- A snapshot merged into itself stays as it is. -/
  merge_self : ∀ a : CoinView, (a.merge a).Same a
  /-- Snapshots that agree wherever two of them have a coin merge to the same one in **any order**,
  which has a coin where one of them has it. -/
  mergeAll_perm : ∀ views views' : List CoinView,
    (∀ a ∈ views, ∀ b ∈ views, a.Agree b) → views.Perm views' →
      (FinMap.mergeAll views).Same (FinMap.mergeAll views') ∧
        ∀ o coin, CoinView.resolve (FinMap.mergeAll views) o = some coin ↔
          ∃ a ∈ views, a.resolve o = some coin
  /-- The same snapshot has as many coins. -/
  size_eq : ∀ a b : CoinView, a.Same b → a.size = b.size

/-- Merging snapshots follows the laws of maps written over each other. -/
theorem mergeLaws : MergeLaws where
  assoc := FinMap.same_merge_assoc
  empty_merge := FinMap.same_empty_merge
  merge_empty := FinMap.same_merge_empty
  resolve_merge := CoinView.resolve_merge
  merge_self := FinMap.same_merge_self
  mergeAll_perm _ _ hagree hperm :=
    ⟨FinMap.same_mergeAll_of_perm hagree hperm, fun _ _ => FinMap.get?_mergeAll_eq_some_iff hagree⟩
  size_eq _ _ := FinMap.Same.size_eq

/-! ## Every construction -/

/-- However a snapshot is put together, **the last write wins**: from coins that are listed, and by
single coins, transactions and other snapshots, in any order and number. -/
theorem last_write_wins (pairs : List (OutPoint × Output)) (steps : List CoinStep) :
    (CoinView.after (FinMap.ofList pairs) steps).Remembers
        ((pairs.map fun pair => .insert pair.1 pair.2) ++ steps) ∧
      (∀ tx : Transaction, tx.outputs.length ≤ UInt32.size → ∀ o coin,
        (CoinStep.addTransaction tx).written? o = some coin ↔
          ∃ place, tx.outputs[place]? = some coin ∧ o = ⟨tx.txid, UInt32.ofNat place⟩) ∧
      MergeLaws := by
  refine ⟨?_, fun _ => CoinStep.written?_addTransaction, mergeLaws⟩
  have hafter : CoinView.after (FinMap.ofList pairs) steps
      = CoinView.after FinMap.empty ((pairs.map fun pair => .insert pair.1 pair.2) ++ steps) := by
    rw [← after_insert, after, after, after, List.foldl_append]
  rw [hafter]
  exact remembers_after _

/-! ## A transaction over listed coins -/

open Transaction

/-- The outpoint of a coin that is made. -/
def mintedOutPoint : OutPoint := ⟨mintingTxid, 0⟩

/-- An outpoint of no known transaction. -/
def strayOutPoint : OutPoint := ⟨⟨FixedBytes.zero 32⟩, 0⟩

/-- Coins that are listed: one of them at an outpoint that a transaction will write. -/
def listedCoins : List (OutPoint × Output) := [(mintedOutPoint, ⟨7, []⟩), (strayOutPoint, ⟨8, []⟩)]

/-- The transaction is added, and another coin is taken over from a snapshot. -/
def mintedSteps : List CoinStep :=
  [.addTransaction minting, .merge (FinMap.ofList [(strayOutPoint, ⟨9, []⟩)])]

/-- The output of the transaction replaces the listed coin, and the coin of the other snapshot the
other one. Two snapshots that share a coin merge to the same one in either order. -/
theorem last_write_wins_minted :
    CoinView.resolve (CoinView.after (FinMap.ofList listedCoins) mintedSteps) mintedOutPoint
        = some ⟨1000, []⟩ ∧
      CoinView.resolve (CoinView.after (FinMap.ofList listedCoins) mintedSteps) strayOutPoint
        = some ⟨9, []⟩ ∧
      (FinMap.mergeAll [FinMap.ofList listedCoins, FinMap.ofList [(strayOutPoint, ⟨8, []⟩)]]).Same
        (FinMap.mergeAll
          [FinMap.ofList [(strayOutPoint, ⟨8, []⟩)], FinMap.ofList listedCoins]) := by
  obtain ⟨hremembers, houtputs, hmerge⟩ := last_write_wins listedCoins mintedSteps
  refine ⟨?_, ?_, ?_⟩
  · refine (hremembers.resolve_eq_some_iff _ _).2
      ⟨listedCoins.map fun pair => .insert pair.1 pair.2, .addTransaction minting, _, rfl, ?_, ?_⟩
    · exact (houtputs minting (by decide) _ _).2 ⟨0, rfl, by rw [txid_minting]; rfl⟩
    · decide
  · refine (hremembers.resolve_eq_some_iff _ _).2
      ⟨(listedCoins.map fun pair => .insert pair.1 pair.2) ++ [.addTransaction minting], _, [], rfl,
        ?_, nofun⟩
    decide
  · exact (hmerge.mergeAll_perm _ _ (by decide) (.swap ..)).1

end CoinView

end OmniLayer
