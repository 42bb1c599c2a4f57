import OmniLayer.Node.Client
import OmniLayer.Proofs.Traversal
import Mathlib.Data.List.Basic

/-! # The coins of fetched transactions

A snapshot holds the outputs of the transactions that were added to it, each under the identifier
that the transaction has by its own bytes (`CoinView.resolve_addTransaction`). A snapshot made of
fetched transactions fails with the first error that is more than a missing transaction
(`Client.foldlM_addFetched_eq_error_iff`); else every coin in it is an output of a fetched
transaction (`Client.exists_numbered?_of_resolve`), and where each of these has the identifier that
it was asked for by, every output is in it (`Client.resolve_of_foldlM_addFetched`). -/

namespace OmniLayer

/-! ## Numbers of outputs -/

namespace Transaction

/-- The output with a **number**. Numbers are words: where more outputs than there are words have
one number, the last of them counts. -/
def numbered? (tx : Transaction) (vout : UInt32) : Option Output :=
  (tx.outputs.zipIdx.reverse.find? fun entry => UInt32.ofNat entry.2 = vout).map Prod.fst

/-- An output with a number stands at a **place** that the number is the word for. -/
theorem exists_getElem?_of_numbered? {tx : Transaction} {vout : UInt32} {coin : Output}
    (h : tx.numbered? vout = some coin) :
    ∃ index, tx.outputs[index]? = some coin ∧ UInt32.ofNat index = vout := by
  obtain ⟨⟨output, index⟩, hfind, rfl⟩ := Option.map_eq_some_iff.1 h
  have hmem := List.mem_reverse.1 (List.mem_of_find?_eq_some hfind)
  have hnumber := List.find?_some hfind
  exact ⟨index, List.mem_zipIdx_iff_getElem?.1 hmem, of_decide_eq_true hnumber⟩

/-- As long as there are no more outputs than words, the number **is** the place. -/
theorem numbered?_eq_getElem? {tx : Transaction} (h : tx.outputs.length ≤ UInt32.size)
    (vout : UInt32) : tx.numbered? vout = tx.outputs[vout.toNat]? := by
  have hplace {output : Output} {index : Nat} (houtput : tx.outputs[index]? = some output)
      (hnumber : UInt32.ofNat index = vout) : index = vout.toNat := by
    have hlt : index < tx.outputs.length := (List.getElem?_eq_some_iff.1 houtput).1
    rw [← hnumber, UInt32.toNat_ofNat_of_lt' (Nat.lt_of_lt_of_le hlt h)]
  cases hnumbered : tx.numbered? vout with
  | some coin =>
    obtain ⟨index, houtput, hnumber⟩ := exists_getElem?_of_numbered? hnumbered
    rw [← hplace houtput hnumber, houtput]
  | none =>
    symm
    cases houtput : tx.outputs[vout.toNat]? with
    | none => rfl
    | some output =>
      have hfind := List.find?_eq_none.1 (Option.map_eq_none_iff.1 hnumbered) (output, vout.toNat)
        (List.mem_reverse.2 (List.mem_zipIdx_iff_getElem?.2 houtput))
      exact absurd (by simp) hfind

/-- Among the outputs that a transaction creates, those of its own identifier are found by their
numbers. -/
theorem find?_created (tx : Transaction) (o : OutPoint) :
    FinMap.find? o tx.created.reverse
      = if tx.txid = o.txid then tx.numbered? o.vout else none := by
  rw [created, numbered?]
  dsimp only
  rw [← List.map_reverse]
  generalize tx.outputs.zipIdx.reverse = numbered
  generalize tx.txid = txid
  induction numbered with
  | nil => simp [FinMap.find?]
  | cons entry rest ih =>
    obtain ⟨txid', vout⟩ := o
    rw [List.map_cons, FinMap.find?, ih, List.find?_cons]
    by_cases htxid : txid = txid'
    · by_cases hvout : UInt32.ofNat entry.2 = vout
      · simp [htxid, hvout]
      · simp [htxid, hvout]
    · simp [htxid]

end Transaction

/-! ## Snapshots -/

namespace CoinView

/-- A transaction that is added **replaces** the coins at its own outpoints and no others. -/
theorem resolve_addTransaction (view : CoinView) (tx : Transaction) (o : OutPoint) :
    (addTransaction view tx).resolve o
      = (if tx.txid = o.txid then tx.numbered? o.vout else none).or (view.resolve o) := by
  rw [resolve, addTransaction, FinMap.get?_insertAll, Transaction.find?_created]
  rfl

end CoinView

/-! ## Snapshots of what was fetched -/

/-- Whether an error says that a transaction **does not exist**. -/
def RpcError.IsMissing : RpcError → Prop
  | .transactionNotFound _ => True
  | _ => False

namespace Client

variable {view view' : CoinView} {results : List (Except RpcError Transaction)}

/-- An error that says more than that a transaction does not exist ends the snapshot. -/
theorem addFetched_of_not_isMissing {e : RpcError} (h : ¬e.IsMissing) (view : CoinView) :
    addFetched view (.error e) = .error e := by
  cases e with
  | transactionNotFound txid => exact absurd trivial h
  | _ => rfl

/-- A transaction that does not exist adds nothing. -/
theorem addFetched_of_isMissing {e : RpcError} (h : e.IsMissing) (view : CoinView) :
    addFetched view (.error e) = .ok view := by
  cases e with
  | transactionNotFound txid => rfl
  | _ => cases h

/-- A snapshot of fetched transactions fails with the **first** error that is more than a missing
transaction. -/
theorem foldlM_addFetched_eq_error_iff {e : RpcError} :
    results.foldlM addFetched view = .error e ↔
      ∃ before after, results = before ++ .error e :: after ∧ ¬e.IsMissing ∧
        ∀ e', .error e' ∈ before → e'.IsMissing := by
  induction results generalizing view with
  | nil =>
    constructor
    · intro h
      cases h
    · rintro ⟨before, after, h, -⟩
      cases before <;> cases h
  | cons result rest ih =>
    rw [List.foldlM_cons]
    -- The head adds to the snapshot, or it is the error that ends it.
    by_cases hends : ∃ e', result = .error e' ∧ ¬e'.IsMissing
    · obtain ⟨e', rfl, he'⟩ := hends
      rw [addFetched_of_not_isMissing he']
      constructor
      · intro h
        cases h
        exact ⟨[], rest, rfl, he', fun _ h => absurd h List.not_mem_nil⟩
      · rintro ⟨before, after, hsplit, -, hbefore⟩
        cases before with
        | nil =>
          cases hsplit
          rfl
        | cons first before =>
          cases hsplit
          exact absurd (hbefore e' List.mem_cons_self) he'
    · have hadds : ∃ view', addFetched view result = .ok view' := by
        cases result with
        | ok tx => exact ⟨_, rfl⟩
        | error e' =>
          exact ⟨_, addFetched_of_isMissing (Classical.not_not.1 fun h => hends ⟨e', rfl, h⟩) view⟩
      obtain ⟨view', hview'⟩ := hadds
      rw [hview']
      change rest.foldlM addFetched view' = .error e ↔ _
      rw [ih]
      constructor
      · rintro ⟨before, after, rfl, he, hbefore⟩
        refine ⟨result :: before, after, rfl, he, fun e' he' => ?_⟩
        rcases List.mem_cons.1 he' with rfl | he'
        · exact Classical.not_not.1 fun h => hends ⟨e', rfl, h⟩
        · exact hbefore e' he'
      · rintro ⟨before, after, hsplit, he, hbefore⟩
        cases before with
        | nil =>
          cases hsplit
          exact absurd ⟨e, rfl, he⟩ hends
        | cons first before =>
          cases hsplit
          exact ⟨before, after, rfl, he, fun e' he' => hbefore e' (List.mem_cons_of_mem _ he')⟩

/-- A snapshot is made of transactions that were fetched, and of errors that one **does not
exist**. -/
theorem isMissing_of_foldlM_addFetched (h : results.foldlM addFetched view = .ok view')
    {e : RpcError} (hmem : .error e ∈ results) : e.IsMissing := by
  induction results generalizing view with
  | nil => exact absurd hmem List.not_mem_nil
  | cons result rest ih =>
    rw [List.foldlM_cons, bind_eq_ok_iff] at h
    obtain ⟨added, hadded, hrest⟩ := h
    rcases List.mem_cons.1 hmem with rfl | hmem
    · by_contra hmissing
      rw [addFetched_of_not_isMissing hmissing] at hadded
      cases hadded
    · exact ih hrest hmem

/-- What is in a snapshot behind one more result. -/
theorem resolve_of_addFetched {result : Except RpcError Transaction}
    (h : addFetched view result = .ok view') (o : OutPoint) :
    view'.resolve o = (result.toOption.bind fun tx =>
      if tx.txid = o.txid then tx.numbered? o.vout else none).or (view.resolve o) := by
  cases result with
  | ok tx =>
    cases h
    exact CoinView.resolve_addTransaction view tx o
  | error e =>
    cases e with
    | transactionNotFound txid =>
      cases h
      rfl
    | _ => cases h

/-- **Nothing else is in a snapshot**: a coin is an output of a fetched transaction that has the
identifier of its outpoint, unless it was there before. -/
theorem exists_numbered?_of_resolve (h : results.foldlM addFetched view = .ok view')
    {o : OutPoint} {coin : Output} (hcoin : view'.resolve o = some coin) :
    view.resolve o = some coin ∨
      ∃ prev, .ok prev ∈ results ∧ prev.txid = o.txid ∧ prev.numbered? o.vout = some coin := by
  induction results generalizing view with
  | nil =>
    cases h
    exact Or.inl hcoin
  | cons result rest ih =>
    rw [List.foldlM_cons, bind_eq_ok_iff] at h
    obtain ⟨added, hadded, hrest⟩ := h
    rcases ih hrest with hfound | ⟨prev, hprev, hnumbered⟩
    · rw [resolve_of_addFetched hadded, Option.or_eq_some_iff] at hfound
      rcases hfound with hhead | ⟨-, hview⟩
      · obtain ⟨tx, htx, hnumbered⟩ := Option.bind_eq_some_iff.1 hhead
        rw [Option.ite_none_right_eq_some] at hnumbered
        cases result with
        | error e => cases htx
        | ok tx' =>
          cases htx
          exact Or.inr ⟨tx, List.mem_cons_self, hnumbered⟩
      · exact Or.inl hview
    · exact Or.inr ⟨prev, List.mem_cons_of_mem _ hprev, hnumbered⟩

/-- **All of it is in a snapshot** of transactions with the identifiers that they were asked for by:
the coin at an outpoint is the output of the transaction that was given for it. -/
theorem resolve_of_foldlM_addFetched {given : Txid → Except RpcError Transaction}
    {txids : List Txid} (hgiven : ∀ txid tx, given txid = .ok tx → tx.txid = txid)
    (h : (txids.map given).foldlM addFetched view = .ok view') (o : OutPoint) :
    view'.resolve o = if o.txid ∈ txids
      then ((given o.txid).toOption.bind fun prev => prev.numbered? o.vout).or (view.resolve o)
      else view.resolve o := by
  induction txids generalizing view with
  | nil =>
    cases h
    rfl
  | cons txid rest ih =>
    rw [List.map_cons, List.foldlM_cons, bind_eq_ok_iff] at h
    obtain ⟨added, hadded, hrest⟩ := h
    have hhead : added.resolve o = if o.txid = txid
        then ((given o.txid).toOption.bind fun prev => prev.numbered? o.vout).or (view.resolve o)
        else view.resolve o := by
      rw [resolve_of_addFetched hadded]
      cases hresult : given txid with
      | error e =>
        by_cases ho : o.txid = txid
        · simp [ho, hresult, Except.toOption]
        · simp [ho, Except.toOption]
      | ok tx =>
        have htxid : tx.txid = txid := hgiven _ _ hresult
        by_cases ho : o.txid = txid
        · simp [ho, htxid, hresult, Except.toOption]
        · simp [ho, htxid, Ne.symm ho, Except.toOption]
    rw [ih hrest, hhead]
    by_cases ho : o.txid = txid
    · -- The transaction may be asked for again behind the head, to the same effect.
      subst ho
      by_cases hmem : o.txid ∈ rest
      · simp [hmem, ← Option.or_assoc]
      · simp [hmem]
    · simp [ho]

end Client

end OmniLayer
