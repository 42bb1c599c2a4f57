import OmniLayer.Transaction.Raw

/-! # The node

A node answers two questions: what its chain is, and what the transaction with an identifier is. The
answer may depend on how often the same question was asked before, and may come too late. A node
that cannot be reached fails to answer at all. -/

namespace OmniLayer

/-- Why a **call** to the node fails. -/
inductive CallFailure
  /-- The node refuses the call. -/
  | refused (code : Int) (message : String)
  /-- The call does not get through. -/
  | transport (message : String)
  deriving DecidableEq, Repr

namespace CallFailure

/-- The wording of a failure. -/
def message : CallFailure → String
  | .refused code message =>
    "JSON-RPC error: RPC error response: RpcError \x7b code: " ++ Decimal.intText code ++
      ", message: " ++ Escape.quoted '"' message ++ ", data: None \x7d"
  | .transport message => "JSON-RPC error: transport error: " ++ message

end CallFailure

/-- What the node says about its **chain**. -/
structure ChainInfo where
  /-- The name of the chain. -/
  chain : String
  /-- The number of its blocks. -/
  blocks : UInt64
  deriving DecidableEq, Repr

/-- A **reply** to a call. -/
structure Reply (α : Type) where
  /-- The answer, or why there is none. -/
  answer : Except CallFailure α
  /-- Whether it comes after the time that a call may take. -/
  late : Bool := false

/-- The reply in time, if it is. -/
def Reply.inTime? {α : Type} (reply : Reply α) : Option (Except CallFailure α) :=
  if reply.late then none else some reply.answer

/-- A **node**. -/
structure Node where
  /-- The reply to the question for the chain, given how often it was asked before. -/
  info : (asked : Nat) → Reply ChainInfo
  /-- The reply to the question for a raw transaction, given how often it was asked before. -/
  transaction : Txid → (asked : Nat) → Reply String

/-- A node that **cannot be reached**. -/
def Node.unreachable (cause : CallFailure) : Node where
  info _ := ⟨.error cause, false⟩
  transaction _ _ := ⟨.error cause, false⟩

end OmniLayer
