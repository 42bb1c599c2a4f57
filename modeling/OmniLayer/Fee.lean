import OmniLayer.Sender

/-! # The fee

What a transaction spends less what it pays, in signed 64-bit words. Each side stops at the largest
word, so the difference always fits. -/

namespace OmniLayer.Fee

/-- The largest signed 64-bit word. -/
def maxSum : Nat := 0x7fffffffffffffff

/-- Adds a value to a sum, neither going past the largest word. -/
def addValue (sum : Nat) (value : UInt64) : Nat := min (sum + min value.toNat maxSum) maxSum

/-- The sum of values. -/
def total (values : List UInt64) : Nat := values.foldl addValue 0

/-- The **fee** of a transaction, all of whose coins must be known. -/
def ofTransaction (coins : CoinLookup) (tx : Transaction) : Except ParseError Int64 := do
  let spent ← tx.previous.mapM (Sender.coin coins)
  let inputs := total (spent.map Output.value)
  let outputs := total (tx.outputs.map Output.value)
  return Int64.ofInt ((inputs : Int) - (outputs : Int))

end OmniLayer.Fee
