import OmniLayer.FinMap
import OmniLayer.Transaction

/-! # Coins

The outputs that transactions spend. A parse sees them only through a lookup; `CoinView` is the
snapshot that answers one. -/

namespace OmniLayer

/-- A **lookup** of the coin at an outpoint. -/
abbrev CoinLookup := OutPoint → Option Output

/-- A **snapshot** of coins, in which a later coin replaces an earlier one at its outpoint. -/
abbrev CoinView := FinMap OutPoint Output

namespace CoinView

/-- The coin at an outpoint. -/
def resolve (view : CoinView) : CoinLookup := FinMap.get? view

/-- Adds every output of a transaction. -/
def addTransaction (view : CoinView) (tx : Transaction) : CoinView :=
  FinMap.insertAll view tx.created

end CoinView

end OmniLayer
