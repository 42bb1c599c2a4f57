import OmniLayer.Coins.Prevout
import OmniLayer.Node.Client
import OmniLayer.Settings.Layout

/-! # Errors of commands

Why a command fails, with the wording of each cause. -/

namespace OmniLayer

/-- The wording of a failure to load settings. -/
def SettingsError.message : SettingsError → String
  | .refused cause => cause.message
  | .wrongType key => "wrong type of value for key '" ++ key ++ "'"
  | .missingField name => "missing field `" ++ name ++ "`"
  | .shortSection shape size length =>
    "invalid length " ++ Decimal.natText length ++ ", expected struct " ++ shape ++ " with " ++
      Decimal.natText size ++ (if size = 1 then " element" else " elements")
  | .notToml => "not a TOML document"
  | .noFile path => "file '" ++ path ++ "' not found"

/-- The wording of a wrong field of a written coin. -/
def PrevoutError.reason : PrevoutError → String
  | .fieldCount => "wrong number of fields"
  | .txid _ => "txid is not hex"
  | .vout => "vout is not a number"
  | .value => "value is not a number"
  | .script => "script is not hex"

/-- Why a **command** fails. -/
inductive CommandError
  /-- The node, or what should be known to it, fails the command. -/
  | node (cause : RpcError)
  /-- The settings in a file cannot be loaded. -/
  | settings (path : String) (cause : SettingsError)
  /-- The network settings are refused. -/
  | network (cause : NetworkError)
  /-- The settings cannot be written. -/
  | layout (cause : Settings.LayoutError)
  /-- A byte string is not hexadecimal. -/
  | hex (cause : Hex.HexError)
  /-- A coin is not written as it should be. -/
  | prevout (text : String) (cause : PrevoutError)
  /-- A transaction cannot be inspected. -/
  | inspection (cause : InspectError)
  /-- A payload cannot be laid out. -/
  | encode (cause : EncodeError)
  /-- A batch has no results. -/
  | batch (cause : Transaction.BatchError)
  /-- The command breaks off. -/
  | brokenOff
  deriving DecidableEq, Repr

namespace CommandError

/-- The error of a client that cannot be connected. -/
def ofConnect : RpcError → CommandError
  | .tooManyPermits => .brokenOff
  | cause => .node cause

/-- The error of a transaction that cannot be inspected. -/
def ofInspect : InspectError → CommandError
  | .brokenOff => .brokenOff
  | cause => .inspection cause

/-- The error of a payload that cannot be laid out. -/
def ofEncode : EncodeError → CommandError
  | .overflow => .brokenOff
  | cause => .encode cause

/-- The error of a coin that is not written as it should be; one about the transaction is an error
about what the node knows. -/
def ofPrevout (text : String) : PrevoutError → CommandError
  | .txid txid => .node (.invalidTxid txid)
  | cause => .prevout text cause

/-- The **wording** of an error; a command that breaks off says nothing. -/
def message : CommandError → String
  | .node cause => "RPC error: " ++ cause.message
  | .settings path cause =>
    "Configuration error: Failed to load " ++ path ++ ": " ++ cause.message
  | .network cause => "Configuration error: " ++ cause.message
  | .layout cause => "Configuration error: Failed to render config: " ++ cause.message
  | .hex cause => "Invalid data: Hex decode error: " ++ cause.message
  | .prevout text cause =>
    "Invalid data: Invalid prevout '" ++ text ++ "': " ++ cause.reason ++
      " (expected txid:vout:value:script_hex)"
  | .inspection cause => "Invalid data: " ++ cause.message
  | .encode cause => "Encode error: " ++ cause.message
  | .batch cause => "Invalid data: " ++ cause.message
  | .brokenOff => ""

end CommandError

/-- Reads a **written coin** as an argument of a command. -/
def Prevout.parse (text : String) : Except CommandError (OutPoint × Output) :=
  (Prevout.ofText text).mapError (CommandError.ofPrevout text)

end OmniLayer
