import OmniLayer.Activation
import OmniLayer.Binary64
import OmniLayer.Binary64.Decimal
import OmniLayer.Binary64.Scaled
import OmniLayer.Bytes
import OmniLayer.Carrier
import OmniLayer.Carrier.Address
import OmniLayer.Carrier.Decision
import OmniLayer.Carrier.Multisig
import OmniLayer.Carrier.NullData
import OmniLayer.Carrier.Report
import OmniLayer.Carrier.Request
import OmniLayer.Chunks
import OmniLayer.Coins
import OmniLayer.Coins.Prevout
import OmniLayer.Command
import OmniLayer.Command.Error
import OmniLayer.Command.Run
import OmniLayer.Command.Usage
import OmniLayer.Destination
import OmniLayer.Error
import OmniLayer.Fee
import OmniLayer.FinMap
import OmniLayer.Hash.Sha256
import OmniLayer.Host
import OmniLayer.Inspection
import OmniLayer.Inspection.Report
import OmniLayer.Keystream
import OmniLayer.Main
import OmniLayer.Message.Header
import OmniLayer.Message.SimpleSend
import OmniLayer.Network
import OmniLayer.Node
import OmniLayer.Node.Cache
import OmniLayer.Node.Client
import OmniLayer.Node.Error
import OmniLayer.Node.Fetch
import OmniLayer.Node.Retry
import OmniLayer.Outcome
import OmniLayer.Outcome.Report
import OmniLayer.Params
import OmniLayer.Parse
import OmniLayer.Proofs.Activation
import OmniLayer.Proofs.Batch
import OmniLayer.Proofs.Bounds.Parse
import OmniLayer.Proofs.Carrier.Acceptance
import OmniLayer.Proofs.Carrier.Address
import OmniLayer.Proofs.Carrier.Assembly
import OmniLayer.Proofs.Carrier.Bound
import OmniLayer.Proofs.Carrier.DataHash
import OmniLayer.Proofs.Carrier.Decision
import OmniLayer.Proofs.Carrier.Enumeration
import OmniLayer.Proofs.Carrier.Layout
import OmniLayer.Proofs.Carrier.Multisig
import OmniLayer.Proofs.Carrier.NullData
import OmniLayer.Proofs.Carrier.Primitives
import OmniLayer.Proofs.Carrier.Priority
import OmniLayer.Proofs.Carrier.Reading
import OmniLayer.Proofs.Carrier.Receivers
import OmniLayer.Proofs.Carrier.Recognition
import OmniLayer.Proofs.Carrier.Reencoding
import OmniLayer.Proofs.Carrier.Search
import OmniLayer.Proofs.Carrier.Spelling
import OmniLayer.Proofs.Coins
import OmniLayer.Proofs.Coins.Prevout
import OmniLayer.Proofs.Coins.View
import OmniLayer.Proofs.Decode
import OmniLayer.Proofs.Dependence
import OmniLayer.Proofs.Destination
import OmniLayer.Proofs.Fee
import OmniLayer.Proofs.FinMap
import OmniLayer.Proofs.Heights
import OmniLayer.Proofs.Inspection
import OmniLayer.Proofs.Keystream
import OmniLayer.Proofs.Keystream.Derivation
import OmniLayer.Proofs.Message.SimpleSend
import OmniLayer.Proofs.Network
import OmniLayer.Proofs.Node.Backoff
import OmniLayer.Proofs.Node.Cache
import OmniLayer.Proofs.Node.Calls
import OmniLayer.Proofs.Node.Identity
import OmniLayer.Proofs.Outcome
import OmniLayer.Proofs.Outcome.Report
import OmniLayer.Proofs.Packets
import OmniLayer.Proofs.Parse
import OmniLayer.Proofs.Provenance
import OmniLayer.Proofs.Receiver
import OmniLayer.Proofs.Script.Grammar
import OmniLayer.Proofs.Script.Instructions
import OmniLayer.Proofs.Script.Templates
import OmniLayer.Proofs.Sender
import OmniLayer.Proofs.Settings
import OmniLayer.Proofs.Settings.Preset
import OmniLayer.Proofs.Text.Base58
import OmniLayer.Proofs.Text.Decimal
import OmniLayer.Proofs.Text.Hex
import OmniLayer.Proofs.Text.Order
import OmniLayer.Proofs.Text.Pieces
import OmniLayer.Proofs.Traversal
import OmniLayer.Proofs.Visibility
import OmniLayer.Receiver
import OmniLayer.Script.Class
import OmniLayer.Script.Instruction
import OmniLayer.Secp256k1
import OmniLayer.Sender
import OmniLayer.Settings
import OmniLayer.Settings.Conversion
import OmniLayer.Settings.Layout
import OmniLayer.Settings.Tree
import OmniLayer.Text.Base58
import OmniLayer.Text.Decimal
import OmniLayer.Text.Escape
import OmniLayer.Text.Hex
import OmniLayer.Text.Json
import OmniLayer.Text.Utf8
import OmniLayer.Toml.Document
import OmniLayer.Toml.Layout
import OmniLayer.Toml.Quoted
import OmniLayer.Toml.Reader
import OmniLayer.Toml.Scalar
import OmniLayer.Toml.Value
import OmniLayer.Transaction
import OmniLayer.Transaction.Raw
import OmniLayer.Transaction.Wire
