import OmniLayer.Node.Client
import Mathlib.Data.List.Basic

/-! # The transactions that are spent from

The identifiers of the transactions that a transaction spends from are fetched in their order, each
once. The order of identifiers is that of their digests as byte strings (`Txid.before_iff`), so the
list is strictly ascending (`Client.pairwise_previousTxids`) and holds exactly the transactions of
the outpoints that are not null (`Client.mem_previousTxids`). -/

namespace OmniLayer

namespace Txid

/-- One identifier comes before another when its **digest** does. -/
@[simp] theorem before_iff {a b : Txid} : a.before b = true ↔ a.digest.bytes < b.digest.bytes := by
  have hgo : ∀ xs ys : Bytes, before.go xs ys = true ↔ xs < ys := by
    intro xs
    induction xs with
    | nil =>
      intro ys
      cases ys with
      | nil => simp [before.go]
      | cons y ys => simp [before.go]
    | cons x xs ih =>
      intro ys
      cases ys with
      | nil => simp [before.go]
      | cons y ys => simp [before.go, List.cons_lt_cons_iff, ih]
  exact hgo _ _

/-- The order of identifiers is transitive. -/
theorem before_trans {a b c : Txid} (hab : a.before b = true) (hbc : b.before c = true) :
    a.before c = true :=
  before_iff.2 (List.lt_trans (before_iff.1 hab) (before_iff.1 hbc))

/-- No identifier comes before itself. -/
theorem not_before_self (a : Txid) : ¬a.before a = true := by
  intro h
  exact List.lt_irrefl _ (before_iff.1 h)

/-- Of two identifiers that differ, the one that does not come before comes **behind**. -/
theorem before_of_not_before {a b : Txid} (hne : a ≠ b) (h : ¬a.before b = true) :
    b.before a = true := by
  by_contra hba
  have hab : a.digest.bytes = b.digest.bytes :=
    List.le_antisymm (List.not_lt.1 fun hlt => hba (before_iff.2 hlt))
      (List.not_lt.1 fun hlt => h (before_iff.2 hlt))
  apply hne
  obtain ⟨a⟩ := a
  obtain ⟨b⟩ := b
  exact congrArg Txid.mk (FixedBytes.ext hab)

end Txid

/-- Whether a transaction **spends from** the one with an identifier: one of its outpoints that are
not null names it. -/
def Transaction.SpendsFrom (tx : Transaction) (txid : Txid) : Prop :=
  ∃ o ∈ tx.previous, o.isNull = false ∧ o.txid = txid

instance (tx : Transaction) (txid : Txid) : Decidable (tx.SpendsFrom txid) :=
  inferInstanceAs (Decidable (∃ o ∈ tx.previous, o.isNull = false ∧ o.txid = txid))

namespace Client

/-- An identifier is inserted, and the others stay. -/
@[simp] theorem mem_insertTxid {txid other : Txid} {txids : List Txid} :
    other ∈ insertTxid txid txids ↔ other = txid ∨ other ∈ txids := by
  induction txids with
  | nil => simp [insertTxid]
  | cons first rest ih =>
    rw [insertTxid]
    by_cases hfirst : txid = first
    · simp [hfirst]
    · rw [if_neg hfirst]
      by_cases hbefore : txid.before first
      · simp [hbefore]
      · simp only [hbefore, if_false, List.mem_cons, ih, Bool.false_eq_true]
        exact or_left_comm

/-- Inserting keeps identifiers **strictly ascending**. -/
theorem pairwise_insertTxid {txids : List Txid} (h : txids.Pairwise fun a b => a.before b = true)
    (txid : Txid) : (insertTxid txid txids).Pairwise fun a b => a.before b = true := by
  induction txids with
  | nil => simp [insertTxid]
  | cons first rest ih =>
    obtain ⟨hfirst, hrest⟩ := List.pairwise_cons.1 h
    rw [insertTxid]
    by_cases heq : txid = first
    · rwa [if_pos heq]
    · rw [if_neg heq]
      by_cases hbefore : txid.before first = true
      · rw [if_pos hbefore, List.pairwise_cons]
        refine ⟨fun other hother => ?_, h⟩
        rcases List.mem_cons.1 hother with rfl | hother
        · exact hbefore
        · exact Txid.before_trans hbefore (hfirst other hother)
      · rw [if_neg hbefore, List.pairwise_cons]
        refine ⟨fun other hother => ?_, ih hrest⟩
        rcases mem_insertTxid.1 hother with rfl | hother
        · exact Txid.before_of_not_before heq hbefore
        · exact hfirst other hother

variable (tx : Transaction)

/-- The transactions that are spent from are fetched. -/
@[simp] theorem mem_previousTxids {txid : Txid} : txid ∈ previousTxids tx ↔ tx.SpendsFrom txid := by
  have hfold : ∀ outpoints : List OutPoint,
      txid ∈ outpoints.foldr (fun outpoint txids => insertTxid outpoint.txid txids) [] ↔
        ∃ o ∈ outpoints, o.txid = txid := by
    intro outpoints
    induction outpoints with
    | nil => simp
    | cons o rest ih =>
      rw [List.foldr_cons, mem_insertTxid, ih]
      simp [eq_comm]
  rw [previousTxids, hfold]
  simp [Transaction.SpendsFrom, and_assoc]

/-- They are fetched in their **order**. -/
theorem pairwise_previousTxids :
    (previousTxids tx).Pairwise fun a b => a.before b = true := by
  unfold previousTxids
  induction tx.previous.filter fun outpoint => !outpoint.isNull with
  | nil => exact .nil
  | cons o rest ih => exact pairwise_insertTxid ih o.txid

/-- Each of them is fetched once. -/
theorem nodup_previousTxids : (previousTxids tx).Nodup := by
  refine (pairwise_previousTxids tx).imp ?_
  rintro a b hbefore rfl
  exact Txid.not_before_self a hbefore

end Client

end OmniLayer
