import OmniLayer.Command.Run
import OmniLayer.Proofs.Batch
import OmniLayer.Proofs.Node.Ledger
import OmniLayer.Proofs.Outcome
import OmniLayer.Proofs.Settings
import OmniLayer.Proofs.Traversal

/-! # Decoding several transactions

A run that decodes several transactions fetches them one after the other, puts the coins of all of
them together and parses them as one batch. With a node that serves a ledger, all of these coins are
the ledger's (`CoinView.IsPartOf`), and those of each transaction are complete whatever else was
fetched (`Client.Mirrors.coins_of_fetchAll`). So each transaction is decoded as if it were the only
one (`Command.runDecode_separately`). -/

namespace OmniLayer

/-! ## Coins put together -/

namespace CoinView

variable {view other : CoinView} {coins : CoinLookup} {o : OutPoint}

/-- Whether all coins of a view are those of a lookup. -/
def IsPartOf (view : CoinView) (coins : CoinLookup) : Prop :=
  ∀ o coin, view.resolve o = some coin → coins o = some coin

/-- No coins are part of any. -/
theorem isPartOf_empty (coins : CoinLookup) : IsPartOf FinMap.empty coins := by
  intro o coin h
  cases h

/-- A merged view resolves an outpoint in its second part first. -/
@[simp] theorem resolve_merge (view other : CoinView) (o : OutPoint) :
    CoinView.resolve (FinMap.merge view other) o = (other.resolve o).or (view.resolve o) :=
  FinMap.get?_merge view other o

/-- What is put together from parts of a lookup is part of it. -/
theorem IsPartOf.merge (hview : view.IsPartOf coins) (hother : other.IsPartOf coins) :
    IsPartOf (FinMap.merge view other) coins := by
  intro o coin h
  rw [resolve_merge, Option.or_eq_some_iff] at h
  rcases h with h | ⟨-, h⟩
  · exact hother o coin h
  · exact hview o coin h

/-- Where the first part is complete, other parts **override** nothing. -/
theorem resolve_merge_left (hother : other.IsPartOf coins) (h : view.resolve o = coins o) :
    CoinView.resolve (FinMap.merge view other) o = coins o := by
  rw [resolve_merge]
  cases hcoin : other.resolve o with
  | some coin => rw [Option.some_or, hother o coin hcoin]
  | none => rw [Option.none_or, h]

/-- Where the second part is complete, the first one **supplies** nothing. -/
theorem resolve_merge_right (hview : view.IsPartOf coins) (h : other.resolve o = coins o) :
    CoinView.resolve (FinMap.merge view other) o = coins o := by
  rw [resolve_merge, h]
  cases hcoin : view.resolve o with
  | some coin => rw [hview o coin hcoin, Option.or_self]
  | none => rw [Option.or_none]

end CoinView

/-! ## Transactions fetched together -/

namespace Client

variable {client : Client} {ledger : Ledger}

/-- A transaction fetched and **decoded alone**, with its own coins. -/
def decodeAlone (client : Client) (params : Params) (height time : UInt32) (format : ReportFormat)
    (txid : Txid) : Except CommandError String := do
  let (tx, client) := client.getTransaction txid
  let tx ← tx.mapError CommandError.node
  let view ← (client.fetchCoinView tx).1.mapError CommandError.node
  let result := tx.parse params view.resolve height time
  if result.brokeOff then throw .brokenOff
  else return ParseResult.report txid.text result format

/-- A client that has just connected to a node that serves a ledger **mirrors** it. -/
theorem mirrors_of_connect {node : Node} {rpc : RpcSettings}
    (hconnect : connect node rpc = .ok client) (hserves : node.Serves (.ofSettings rpc) ledger) :
    client.Mirrors ledger := by
  obtain rfl := eq_fresh_of_connect hconnect
  exact ⟨hserves, fun txid tx hcached => by cases hcached⟩

namespace Mirrors

/-- What is got from such a client and its coins: what the ledger answers, coins of the ledger, and
all of those that the transaction spends. The client goes on to mirror the ledger. -/
theorem exists_view_eq (h : client.Mirrors ledger) {txid : Txid} {tx : Transaction}
    (htx : ledger.answer txid = .ok tx) :
    ∃ (view : CoinView) (next : Client),
      (client.getTransaction txid).1 = .ok tx ∧
      (client.getTransaction txid).2.fetchCoinView tx = (.ok view, next) ∧
      next.Mirrors ledger ∧ view.IsPartOf ledger.coins ∧
      ∀ o ∈ tx.previous, view.resolve o = ledger.coins o := by
  have hgot := h.of_extends (client.extends_getTransaction txid)
  obtain ⟨view, hview, hpart, hcoins⟩ := hgot.exists_fetchCoinView_eq tx
  refine ⟨view, _, (h.getTransaction_eq txid).trans htx, Prod.ext hview rfl, ?_, hpart, hcoins⟩
  exact hgot.of_extends (extends_fetchCoinView _ tx)

/-- Decoded alone, a transaction **parses** as with all coins of the ledger at hand. There is a
report unless the parse breaks off. -/
theorem decodeAlone_eq_ok_iff (h : client.Mirrors ledger) {params : Params} {height time : UInt32}
    {format : ReportFormat} {txid : Txid} {report : String} :
    client.decodeAlone params height time format txid = .ok report ↔
      ∃ tx, ledger.answer txid = .ok tx ∧
        tx.parse params ledger.coins height time ≠ .error .overflow ∧
        report
          = ParseResult.report txid.text (tx.parse params ledger.coins height time) format := by
  unfold decodeAlone
  dsimp only
  cases htx : ledger.answer txid with
  | error e =>
    rw [h.getTransaction_eq, htx]
    exact iff_of_false (fun h => by cases h) fun ⟨_, h, _⟩ => by cases h
  | ok tx =>
    obtain ⟨view, next, hgot, hview, -, -, hcoins⟩ := h.exists_view_eq htx
    simp only [Except.ok.injEq, exists_eq_left']
    rw [hgot, ← Transaction.parse_congr hcoins]
    change (((client.getTransaction txid).2.fetchCoinView tx).1.mapError CommandError.node >>= _)
      = _ ↔ _
    rw [hview]
    change (if (tx.parse params view.resolve height time).brokeOff = true then _ else _) = _ ↔ _
    by_cases hbroke : tx.parse params view.resolve height time = .error .overflow
    · rw [if_pos (ParseResult.brokeOff_iff.2 hbroke)]
      exact iff_of_false (fun h => by cases h) fun h => h.1 hbroke
    · rw [if_neg fun hif => hbroke (ParseResult.brokeOff_iff.1 hif), and_iff_right hbroke]
      change Except.ok _ = Except.ok _ ↔ _
      rw [Except.ok.injEq, eq_comm]

/-- The **first** of several transactions is fetched with its coins, then the others. -/
theorem fetchAll_cons (h : client.Mirrors ledger) (coins : CoinView) {txid : Txid}
    {tx : Transaction} (htx : ledger.answer txid = .ok tx) (rest : List Txid) :
    ∃ (view : CoinView) (next : Client), next.Mirrors ledger ∧ view.IsPartOf ledger.coins ∧
      (∀ o ∈ tx.previous, view.resolve o = ledger.coins o) ∧
      client.fetchAll coins (txid :: rest)
        = (next.fetchAll (FinMap.merge coins view) rest).map fun got => (tx :: got.1, got.2) := by
  obtain ⟨view, next, hgot, hview, hnext, hpart, hcoins⟩ := h.exists_view_eq htx
  refine ⟨view, next, hnext, hpart, hcoins, ?_⟩
  rw [fetchAll]
  dsimp only
  rw [hgot]
  change ((client.getTransaction txid).2.fetchCoinView tx).1 >>= _ = _
  rw [hview]
  change next.fetchAll (FinMap.merge coins view) rest >>= _ = _
  cases next.fetchAll (FinMap.merge coins view) rest <;> rfl

/-- Transactions that are fetched together are **what the ledger answers** to each question. -/
theorem map_fst_fetchAll (h : client.Mirrors ledger) (coins : CoinView) (txids : List Txid) :
    (client.fetchAll coins txids).map Prod.fst = txids.mapM ledger.answer := by
  induction txids generalizing client coins with
  | nil => rfl
  | cons txid rest ih =>
    rw [List.mapM_cons]
    cases htx : ledger.answer txid with
    | error e =>
      rw [fetchAll]
      dsimp only
      rw [h.getTransaction_eq, htx]
      rfl
    | ok tx =>
      obtain ⟨view, next, hnext, -, -, hall⟩ := h.fetchAll_cons coins htx rest
      rw [hall]
      change _ = rest.mapM ledger.answer >>= _
      rw [← ih hnext (FinMap.merge coins view)]
      cases next.fetchAll (FinMap.merge coins view) rest <;> rfl

/-- The coins put together on the way are coins of the ledger. They are **complete** wherever the
coins before were, and for each of the transactions. -/
theorem coins_of_fetchAll (h : client.Mirrors ledger) {coins all : CoinView}
    (hcoins : coins.IsPartOf ledger.coins) {txids : List Txid} {txs : List Transaction}
    (hall : client.fetchAll coins txids = .ok (txs, all)) :
    (∀ o, coins.resolve o = ledger.coins o → all.resolve o = ledger.coins o) ∧
      ∀ tx ∈ txs, ∀ o ∈ tx.previous, all.resolve o = ledger.coins o := by
  induction txids generalizing client coins txs with
  | nil =>
    cases hall
    exact ⟨fun _ ho => ho, fun tx htx => by cases htx⟩
  | cons txid rest ih =>
    cases htx : ledger.answer txid with
    | error e =>
      -- Nothing is fetched at all.
      have hfst := h.map_fst_fetchAll coins (txid :: rest)
      rw [hall, List.mapM_cons, htx] at hfst
      cases hfst
    | ok tx =>
      obtain ⟨view, next, hnext, hpart, hown, hcons⟩ := h.fetchAll_cons coins htx rest
      rw [hall] at hcons
      cases hrest : next.fetchAll (FinMap.merge coins view) rest with
      | error e =>
        rw [hrest] at hcons
        cases hcons
      | ok got =>
        rw [hrest] at hcons
        cases hcons
        obtain ⟨hkept, hothers⟩ := ih hnext (hcoins.merge hpart) hrest
        refine ⟨fun o ho => hkept o (CoinView.resolve_merge_left hpart ho), fun tx' htx' o ho => ?_⟩
        rcases List.mem_cons.1 htx' with rfl | htx'
        · -- Its coins were complete when merged, and what is merged later takes none away.
          exact hkept o (CoinView.resolve_merge_right hcoins (hown o ho))
        · exact hothers tx' htx' o ho

/-- Transactions that are fetched together and parsed as one batch are reported on as those that are
**decoded alone**: there are reports on all of them together when there is one on each. -/
theorem forall₂_decodeAlone_iff (h : client.Mirrors ledger) {params : Params}
    {height time : UInt32} {format : ReportFormat} (threads : Nat) {txids : List Txid}
    {reports : List String} :
    List.Forall₂ (fun txid report =>
        client.decodeAlone params height time format txid = .ok report) txids reports ↔
      ∃ txs coins results, client.fetchAll FinMap.empty txids = .ok (txs, coins) ∧
        Transaction.parseBatch params (CoinView.resolve coins) height time threads txs
          = .ok results ∧
        reports = (txids.zip results).map fun entry =>
          ParseResult.report entry.1.text entry.2 format := by
  -- Both sides are compared with parses against all coins of the ledger.
  simp only [h.decodeAlone_eq_ok_iff, Transaction.parseBatch_eq_ok_iff]
  rw [forall₂_exists_iff]
  simp only [← mapM_eq_ok_iff, ← h.map_fst_fetchAll FinMap.empty]
  have hparse {txs : List Transaction} {all : CoinView}
      (hall : client.fetchAll FinMap.empty txids = .ok (txs, all)) {tx : Transaction}
      (htx : tx ∈ txs) :
      tx.parse params all.resolve height time = tx.parse params ledger.coins height time :=
    Transaction.parse_congr
      ((h.coins_of_fetchAll (CoinView.isPartOf_empty _) hall).2 tx htx)
  have hreports (txs : List Transaction) :
      (txids.zip (txs.map (Transaction.parse params ledger.coins height time))).map
          (fun entry => ParseResult.report entry.1.text entry.2 format)
        = List.zipWith (fun txid tx =>
            ParseResult.report txid.text (tx.parse params ledger.coins height time) format)
            txids txs := by
    rw [List.zip_map_right, List.map_map, List.zip, List.map_zipWith]
    rfl
  constructor
  · rintro ⟨txs, htxs, hwhole, rfl⟩
    cases hall : client.fetchAll FinMap.empty txids with
    | error e =>
      rw [hall] at htxs
      cases htxs
    | ok got =>
      rw [hall] at htxs
      cases htxs
      refine ⟨got.1, got.2, _, rfl, ⟨fun tx htx => ?_, rfl⟩, ?_⟩
      · rw [hparse hall htx]
        exact hwhole tx htx
      · rw [List.map_congr_left fun tx htx => hparse hall htx, hreports]
  · rintro ⟨txs, all, results, hall, ⟨hwhole, rfl⟩, rfl⟩
    refine ⟨txs, by rw [hall]; rfl, fun tx htx => ?_, ?_⟩
    · rw [← hparse hall htx]
      exact hwhole tx htx
    · rw [List.map_congr_left fun tx htx => hparse hall htx, hreports]

end Mirrors

end Client

/-! ## The command -/

namespace Command

variable {host : Host} {reach : RpcSettings → Node} {choice : SettingsChoice} {settings : Settings}
  {params : Params} {node : NodeChoice} {ledger : Ledger}

/-- **Transactions are decoded separately.** With a node that serves a ledger, the reports on
several transactions are the reports on each of them, fetched and decoded alone, one for one; and
there are reports on all of them together exactly when there is one on each. So what is reported on
a transaction depends neither on the others and their order nor on the number of threads. What is
printed are these reports, joined. -/
theorem runDecode_separately (hload : choice.loadParams host = .ok (settings, params))
    (hserves : (reach (node.override settings.rpc)).Serves
      (.ofSettings (node.override settings.rpc)) ledger)
    (texts : List String) (height time : UInt32) (format : ReportFormat) :
    (∀ reports, decodeReports host reach texts height time format node choice = .ok reports ↔
      ∃ txids client, texts.mapM Txid.parse = .ok txids ∧
        Client.connect (reach (node.override settings.rpc)) (node.override settings.rpc)
          = .ok client ∧
        List.Forall₂ (fun txid report =>
          client.decodeAlone params height time format txid = .ok report) txids reports) ∧
    runDecode host reach texts height time format node choice
      = (decodeReports host reach texts height time format node choice).map
          (joinReports format) := by
  refine ⟨fun reports => ?_, rfl⟩
  have hrun : decodeReports host reach texts height time format node choice =
      (texts.mapM Txid.parse).mapError CommandError.node >>= fun txids =>
        (Client.connect (reach (node.override settings.rpc)) (node.override settings.rpc)).mapError
          CommandError.ofConnect >>= fun client =>
        (client.fetchAll FinMap.empty txids).mapError CommandError.node >>= fun got =>
        (Transaction.parseBatch params (CoinView.resolve got.2) height time settings.threads.toNat
          got.1).mapError CommandError.batch >>= fun results =>
        .ok ((txids.zip results).map fun entry =>
          ParseResult.report entry.1.text entry.2 format) := by
    rw [decodeReports, hload]
    rfl
  -- The command gives reports when all of its steps succeed; the last three of them are compared.
  rw [hrun]
  simp only [bind_eq_ok_iff, mapError_eq_ok_iff, Except.ok.injEq]
  constructor
  · rintro ⟨txids, htxids, client, hconnect, got, hgot, results, hresults, rfl⟩
    refine ⟨txids, client, htxids, hconnect, ?_⟩
    exact ((Client.mirrors_of_connect hconnect hserves).forall₂_decodeAlone_iff
      settings.threads.toNat).2 ⟨_, _, results, hgot, hresults, rfl⟩
  · rintro ⟨txids, client, htxids, hconnect, hreports⟩
    obtain ⟨txs, coins, results, hgot, hresults, rfl⟩ :=
      ((Client.mirrors_of_connect hconnect hserves).forall₂_decodeAlone_iff
        settings.threads.toNat).1 hreports
    exact ⟨txids, htxids, client, hconnect, _, hgot, results, hresults, rfl⟩

end Command

/-- An identifier is **read back** from its text. -/
@[simp] theorem Txid.parse_text (txid : Txid) : parse txid.text = .ok txid := by
  have hread : ofText? txid.text = some txid := ofText?_eq_some_iff.2 (Hex.lowerAscii_encode _)
  rw [parse, hread]

/-- So are several. -/
@[simp] theorem Txid.mapM_parse_text (txids : List Txid) :
    (txids.map Txid.text).mapM Txid.parse = .ok txids := by
  rw [mapM_eq_ok_iff, List.forall₂_map_left_iff, List.forall₂_same]
  exact fun txid _ => txid.parse_text

/-- Without a choice, on a bare host, the built-in settings are used, and the main network. -/
theorem SettingsChoice.loadParams_bare (host : Host) :
    loadParams {} host.bare = .ok (Settings.builtIn host, Params.bitcoin) := by
  have hload : load {} host.bare = .ok (Settings.builtIn host) := by
    rw [load_of_path_eq_none rfl, Settings.loadOrBuiltIn_bare]
    rfl
  rw [loadParams_of_load hload, Settings.params_builtIn]
  rfl

namespace Command

open Transaction in
/-- The transaction that spends the coin is decoded twice, on both sides of the one that makes it.
There are three reports, each of which is the one of its own transaction, and these are printed. -/
theorem runDecode_separately_spent :
    ∃ spending minting,
      Archive.spent.client.decodeAlone Params.bitcoin 400000 0 .text spendingMintedTxid
        = .ok spending ∧
      Archive.spent.client.decodeAlone Params.bitcoin 400000 0 .text mintingTxid = .ok minting ∧
      decodeReports (Host.bare ⟨4, [], fun _ => none⟩) (fun _ => Archive.spent.node)
          ([spendingMintedTxid, mintingTxid, spendingMintedTxid].map Txid.text) 400000 0 .text
          {} {} = .ok [spending, minting, spending] ∧
      runDecode (Host.bare ⟨4, [], fun _ => none⟩) (fun _ => Archive.spent.node)
          ([spendingMintedTxid, mintingTxid, spendingMintedTxid].map Txid.text) 400000 0 .text
          {} {} = .ok (joinReports .text [spending, minting, spending]) := by
  -- The sizes of the main network are counted by words, so no parse breaks off.
  have hsizes : ¬Params.bitcoin.IsOverlong := by
    unfold Params.IsOverlong
    decide
  have hdecoded {txid : Txid} {tx : Transaction} (hfind : Archive.spent.find? txid = some tx) :
      ∃ report, Archive.spent.client.decodeAlone Params.bitcoin 400000 0 .text txid
        = .ok report :=
    ⟨_, Archive.spent.mirrors_client.decodeAlone_eq_ok_iff.2 ⟨tx, Archive.answer_of_find? hfind,
      fun hoverflow => hsizes (isOverlong_of_parse_eq_overflow hoverflow), rfl⟩⟩
  have hminting : Archive.spent.find? mintingTxid = some minting := by decide +kernel
  have hspending : Archive.spent.find? spendingMintedTxid = some spendingMinted := by
    decide +kernel
  obtain ⟨spending, hspendingAlone⟩ := hdecoded hspending
  obtain ⟨minting, hmintingAlone⟩ := hdecoded hminting
  -- The archive serves its ledger however it is asked.
  let reach : RpcSettings → Node := fun _ => Archive.spent.node
  have hserves :
      (reach (NodeChoice.override {} (Settings.builtIn ⟨4, [], fun _ => none⟩).rpc)).Serves
        (.ofSettings (NodeChoice.override {} (Settings.builtIn ⟨4, [], fun _ => none⟩).rpc))
        Archive.spent.ledger := Archive.spent.serves _
  obtain ⟨hreports, hprinted⟩ :=
    runDecode_separately (SettingsChoice.loadParams_bare ⟨4, [], fun _ => none⟩) hserves
      ([spendingMintedTxid, mintingTxid, spendingMintedTxid].map Txid.text) 400000 0 .text
  have hthree := (hreports [spending, minting, spending]).2
    ⟨_, Archive.spent.client, Txid.mapM_parse_text _, rfl,
      .cons hspendingAlone (.cons hmintingAlone (.cons hspendingAlone .nil))⟩
  refine ⟨spending, minting, hspendingAlone, hmintingAlone, hthree, ?_⟩
  rw [hprinted, hthree]
  rfl

end Command

end OmniLayer
