import OmniLayer.Proofs.Node.Request
import OmniLayer.Proofs.Text.Hex
import Mathlib.Data.List.Basic

/-! # Nodes with an archive

A node that answers every question in time and from a fixed list of transactions: it gives those in
the list and no others (`Archive.gives_iff`), and denies that there are others. -/

namespace OmniLayer

/-- A transaction as a node gives it, **without its witnesses**. -/
def Transaction.raw (tx : Transaction) : String := Hex.encode tx.serialize

/-- What can be read back from its bytes can be read back as a node gives it. -/
theorem Transaction.decodeRaw_raw {tx : Transaction}
    (h : Wire.deserialize tx.serialize = .ok tx) : decodeRaw tx.raw = .ok tx := by
  rw [decodeRaw, ofRaw, raw, Hex.trim_encode, Hex.decode_encode]
  dsimp only
  rw [h]
  rfl

/-- An **archive**: transactions that are read back as they are written, under their identifiers. -/
structure Archive where
  /-- The transactions, beside their identifiers. -/
  entries : List (Txid × Transaction)
  /-- Each identifier is that of the transaction beside it. -/
  txid_eq : ∀ entry ∈ entries, entry.2.txid = entry.1
  /-- Each transaction can be read back from its bytes. -/
  readable : ∀ entry ∈ entries, Wire.deserialize entry.2.serialize = .ok entry.2
  /-- Each has fewer outputs than there are numbers for them. -/
  numbered : ∀ entry ∈ entries, entry.2.outputs.length < UInt32.size

namespace Archive

variable {archive : Archive} {txid : Txid} {tx : Transaction}

/-- The transaction with an identifier. -/
def find? (archive : Archive) (txid : Txid) : Option Transaction := archive.entries.lookup txid

/-- What is found is in the archive. -/
theorem mem_of_find? (h : archive.find? txid = some tx) : (txid, tx) ∈ archive.entries := by
  obtain ⟨before, after, hentries, -⟩ := List.lookup_eq_some_iff.1 h
  rw [hentries]
  exact List.mem_append_right _ List.mem_cons_self

/-- The **node** that answers from an archive. -/
def node (archive : Archive) : Node where
  info _ := ⟨.ok ⟨"main", 0⟩, false⟩
  transaction txid _ :=
    match archive.find? txid with
    | some tx => ⟨.ok tx.raw, false⟩
    | none => ⟨.error (.refused (-5) "No such mempool or blockchain transaction"), false⟩

/-- What is in the archive is answered in time. -/
theorem inTime?_of_find? (h : archive.find? txid = some tx) (asked : Nat) :
    (archive.node.transaction txid asked).inTime? = some (.ok tx.raw) := by
  simp [node, h, Reply.inTime?]

/-- What is not in the archive is refused in time. -/
theorem inTime?_of_find?_eq_none (h : archive.find? txid = none) (asked : Nat) :
    (archive.node.transaction txid asked).inTime?
      = some (.error (.refused (-5) "No such mempool or blockchain transaction")) := by
  simp [node, h, Reply.inTime?]

/-- What is in the archive can be read. -/
theorem decodeRaw_of_find? (h : archive.find? txid = some tx) :
    Transaction.decodeRaw tx.raw = .ok tx :=
  Transaction.decodeRaw_raw (archive.readable (txid, tx) (mem_of_find? h))

/-- The node **gives** what is in the archive, and nothing else. -/
@[simp] theorem gives_iff : archive.node.Gives txid tx ↔ archive.find? txid = some tx := by
  constructor
  · rintro ⟨asked, raw, hraw, hdecode⟩
    cases hfind : archive.find? txid with
    | none =>
      rw [inTime?_of_find?_eq_none hfind] at hraw
      cases hraw
    | some known =>
      rw [inTime?_of_find? hfind] at hraw
      cases hraw
      rw [decodeRaw_of_find? hfind] at hdecode
      exact congrArg some (Except.ok.inj hdecode)
  · intro hfind
    exact ⟨0, tx.raw, inTime?_of_find? hfind 0, decodeRaw_of_find? hfind⟩

/-- The node is truthful. -/
theorem truthful (archive : Archive) : archive.node.Truthful :=
  fun txid tx hgives => archive.txid_eq (txid, tx) (mem_of_find? (gives_iff.1 hgives))

/-- A **client** that has just connected to the node. -/
def client (archive : Archive) : Client where
  node := archive.node
  policy := .ofSettings {}
  concurrentRequests := 10
  cache := Cache.empty
  errorCount := 0
  infoCalls := 1
  transactionCalls := FinMap.empty

/-- It is a client that can be. -/
theorem reachable_client (archive : Archive) : archive.client.Reachable :=
  .connect (show Client.connect archive.node {} = .ok archive.client from rfl)

end Archive

/-! ## Archives of one and of two transactions -/

namespace Transaction

/-- A transaction that makes a coin. -/
def minting : Transaction where
  version := 1
  inputs := [⟨⟨⟨FixedBytes.zero 32⟩, 0xffffffff⟩, [], 0xffffffff, []⟩]
  outputs := [⟨1000, []⟩]
  lockTime := 0

/-- Its identifier, as bytes. -/
def mintingTxid : Txid :=
  ⟨[0x42, 0xd8, 0x7c, 0xc9, 0x64, 0x45, 0xb6, 0xb6, 0xd0, 0x00, 0xd9, 0xb9, 0x6e, 0x63, 0x49, 0xaa,
    0xec, 0x76, 0xef, 0x8a, 0x01, 0x98, 0x05, 0x79, 0x4d, 0x54, 0x87, 0xed, 0x08, 0x16, 0xa6, 0x25],
    rfl⟩

/-- The transaction that mints the coin has this identifier. -/
@[simp] theorem txid_minting : minting.txid = mintingTxid := by decide +kernel

/-- A transaction that spends the coin, and one of a transaction that does not exist. -/
def spendingMinted : Transaction where
  version := 2
  inputs := [⟨⟨mintingTxid, 0⟩, [], 0, []⟩, ⟨⟨⟨FixedBytes.zero 32⟩, 0⟩, [], 0, []⟩]
  outputs := []
  lockTime := 0

/-- Its identifier, as bytes. -/
def spendingMintedTxid : Txid :=
  ⟨[0xb6, 0x68, 0x71, 0xb8, 0x2c, 0x5c, 0x22, 0x98, 0xf2, 0x48, 0xb9, 0x73, 0x96, 0x50, 0x69, 0x59,
    0x80, 0x0c, 0x3a, 0x52, 0x67, 0x03, 0x56, 0xd4, 0x11, 0xe3, 0x08, 0x41, 0x42, 0x7a, 0x55, 0xf1],
    rfl⟩

/-- The transaction that spends it has this one. -/
@[simp] theorem txid_spendingMinted : spendingMinted.txid = spendingMintedTxid := by decide +kernel

end Transaction

/-- The archive of the first of them. -/
def Archive.minted : Archive where
  entries := [(Transaction.mintingTxid, Transaction.minting)]
  txid_eq := by
    intro entry hentry
    rw [List.mem_singleton.1 hentry]
    exact Transaction.txid_minting
  readable := by
    intro entry hentry
    rw [List.mem_singleton.1 hentry]
    decide +kernel
  numbered := by
    intro entry hentry
    rw [List.mem_singleton.1 hentry]
    decide

open Transaction in
/-- The archive of both. -/
def Archive.spent : Archive where
  entries := [(mintingTxid, minting), (spendingMintedTxid, spendingMinted)]
  txid_eq := by
    rintro entry (_ | ⟨_, _ | ⟨_, ⟨⟩⟩⟩)
    · exact txid_minting
    · exact txid_spendingMinted
  readable := by
    rintro entry (_ | ⟨_, _ | ⟨_, ⟨⟩⟩⟩)
    · decide +kernel
    · decide +kernel
  numbered := by
    rintro entry (_ | ⟨_, _ | ⟨_, ⟨⟩⟩⟩)
    · decide
    · decide

end OmniLayer
