import OmniLayer.Settings
import OmniLayer.Toml.Layout

/-! # Settings as a file

The text of a file that holds the same settings. A file has signed integers only, so a word past the
largest of them cannot be written. -/

namespace OmniLayer.Settings

/-- Why settings cannot be **written**. -/
inductive LayoutError
  /-- A word is past the largest integer of a file. -/
  | outOfRange
  deriving DecidableEq, Repr

/-- The wording of a failure to write. -/
def LayoutError.message : LayoutError → String
  | .outOfRange => "out-of-range value for u64 type"

/-- The line of a text. -/
def textLine (key value : String) : Except LayoutError String :=
  .ok (Toml.fieldLine key (Toml.textForm value))

/-- The line of a natural number. -/
def natLine (key : String) (value : Nat) : Except LayoutError String :=
  if value ≤ Toml.maxInteger then .ok (Toml.fieldLine key (Decimal.natText value))
  else .error .outOfRange

/-- The line of a floating-point number. -/
def floatLine (key : String) (value : Binary64) : Except LayoutError String :=
  .ok (Toml.fieldLine key (Toml.floatForm value))

/-- The line of a list of bytes. -/
def bytesLine (key : String) (value : List UInt8) : Except LayoutError String :=
  .ok (Toml.fieldLine key (Toml.listForm (value.map fun b => Decimal.natText b.toNat)))

/-- The line of a value that may be unset; an unset one has none. -/
def unsetOr {α : Type} (line : α → Except LayoutError String) :
    Option α → Except LayoutError String
  | none => .ok ""
  | some a => line a

/-- The lines of the network settings. -/
def networkLines (network : NetworkSettings) : List (Except LayoutError String) :=
  [textLine "preset" network.preset,
   unsetOr (textLine "marker") network.marker,
   unsetOr (natLine "packet_size") (network.packetSize.map UInt64.toNat),
   unsetOr (natLine "max_packets") (network.maxPackets.map UInt64.toNat),
   unsetOr (natLine "max_push_size") (network.maxPushSize.map UInt64.toNat),
   unsetOr (natLine "dust_value") (network.dustValue.map UInt64.toNat),
   unsetOr (textLine "exodus_address") network.exodusAddress,
   unsetOr (natLine "pubkey_hash_version") (network.pubkeyHashVersion.map UInt8.toNat),
   unsetOr (natLine "script_hash_version") (network.scriptHashVersion.map UInt8.toNat),
   unsetOr (bytesLine "legacy_script_hash_versions") network.legacyScriptHashVersions,
   unsetOr (natLine "null_data_height") (network.nullDataHeight.map UInt32.toNat),
   unsetOr (natLine "script_hash_height") (network.scriptHashHeight.map UInt32.toNat),
   unsetOr (natLine "multisig_height") (network.multisigHeight.map UInt32.toNat)]

/-- The lines of the node settings. -/
def rpcLines (rpc : RpcSettings) : List (Except LayoutError String) :=
  [textLine "url" rpc.url,
   textLine "username" rpc.username,
   textLine "password" rpc.password,
   natLine "timeout_seconds" rpc.timeoutSeconds.toNat,
   natLine "max_retries" rpc.maxRetries.toNat,
   natLine "initial_backoff_ms" rpc.initialBackoffMs.toNat,
   floatLine "backoff_multiplier" rpc.backoffMultiplier,
   natLine "max_backoff_seconds" rpc.maxBackoffSeconds.toNat,
   natLine "concurrent_requests" rpc.concurrentRequests.toNat]

/-- Settings as the **text of a file**: three sections with a blank line between them. -/
def toToml (settings : Settings) : Except LayoutError String := do
  let network ← (networkLines settings.network).mapM id
  let threads ← natLine "threads" settings.threads.toNat
  let rpc ← (rpcLines settings.rpc).mapM id
  return String.intercalate "\n"
    [Toml.sectionText "network" network,
     Toml.sectionText "processing" [threads],
     Toml.sectionText "bitcoin_rpc" rpc]

end OmniLayer.Settings
