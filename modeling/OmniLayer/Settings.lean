import OmniLayer.Host
import OmniLayer.Network
import OmniLayer.Settings.Conversion
import OmniLayer.Toml.Reader

/-! # Settings

The settings of a run come from built-in defaults, a file, and environment variables. The variables
are written over the file, and the two together over the defaults. The network settings among them
must be accepted before any are used. -/

namespace OmniLayer

/-- How the **node** is reached, and how often and how patiently it is asked. -/
structure RpcSettings where
  /-- Where the node listens. -/
  url : String := "http://localhost:8332"
  /-- The user's name. -/
  username : String := "bitcoin"
  /-- The user's password. -/
  password : String := "password"
  /-- How long a call may take. -/
  timeoutSeconds : UInt64 := 60
  /-- How often a call is tried. -/
  maxRetries : UInt64 := 10
  /-- The wait after the first failure. -/
  initialBackoffMs : UInt64 := 100
  /-- What each further wait is multiplied by. -/
  backoffMultiplier : Binary64 := Binary64.ofNat 2
  /-- The bound on further waits. -/
  maxBackoffSeconds : UInt64 := 30
  /-- The number of calls at one time. -/
  concurrentRequests : UInt64 := 10
  deriving DecidableEq, Repr

/-- The **settings** of a run. -/
structure Settings where
  /-- The network. -/
  network : NetworkSettings
  /-- The number of workers that parse. -/
  threads : UInt64
  /-- The node. -/
  rpc : RpcSettings
  deriving DecidableEq, Repr

/-- Why settings cannot be **loaded**. -/
inductive SettingsError
  /-- The network settings are refused. -/
  | refused (cause : NetworkError)
  /-- A setting is of the wrong type; a section that is no section has no key. -/
  | wrongType (key : String)
  /-- A section lacks a field that it must have. -/
  | missingField (name : String)
  /-- A section that is a list ends before a field that it must have. -/
  | shortSection (shape : String) (size length : Nat)
  /-- The file is no TOML. -/
  | notToml
  /-- There is no file at the path. -/
  | noFile (path : String)
  deriving DecidableEq, Repr

namespace Settings

/-- A **section** of a setting tree, with its name. -/
structure Section where
  /-- The name. -/
  name : String
  /-- What the section is called where a list in its place is too short. -/
  shape : String
  /-- The number of its fields. -/
  size : Nat
  /-- The settings, by their keys or in the order of the fields. -/
  content : Setting

namespace Section

/-- A field of a section, with its full key. -/
def field? (part : Section) (name : String) (index : Nat) : Option (String × Setting) :=
  match part.content with
  | .table fields => (Setting.find? name fields).map fun value => (part.name ++ "." ++ name, value)
  | .list items =>
    items[index]?.map fun value => (part.name ++ "[" ++ Decimal.natText index ++ "]", value)
  | _ => none

/-- Converts the value of a field that may be missing. -/
def optional {α : Type} (part : Section) (convert : Setting → Option α) (name : String)
    (index : Nat) : Except SettingsError (Option α) :=
  match part.field? name index with
  | none => .ok none
  | some (_, .missing) => .ok none
  | some (key, value) =>
    match convert value with
    | some a => .ok (some a)
    | none => .error (.wrongType key)

/-- Converts the value of a field that must be there. -/
def required {α : Type} (part : Section) (convert : Setting → Option α) (name : String)
    (index : Nat) : Except SettingsError α := do
  match part.field? name index with
  | none =>
    match part.content with
    | .table _ => throw (.missingField name)
    | .list items => throw (.shortSection part.shape part.size items.length)
    | _ => throw (.wrongType "")
  | some (key, value) =>
    match convert value with
    | some a => return a
    | none => throw (.wrongType key)

/-- Converts the members of a list that stands under a key. -/
def members {α : Type} (convert : Setting → Option α) (key : String) :
    (index : Nat) → List Setting → Except SettingsError (List α)
  | _, [] => .ok []
  | index, item :: rest =>
    match convert item with
    | none => .error (.wrongType (key ++ "[" ++ Decimal.natText index ++ "]"))
    | some a => do return a :: (← members convert key (index + 1) rest)

/-- Converts a list that may be missing. -/
def optionalList {α : Type} (part : Section) (convert : Setting → Option α) (name : String)
    (index : Nat) : Except SettingsError (Option (List α)) :=
  match part.field? name index with
  | none => .ok none
  | some (_, .missing) => .ok none
  | some (key, .list items) => (members convert key 0 items).map some
  | some _ => .error (.wrongType "")

end Section

/-- A setting as a byte. -/
def byte? (setting : Setting) : Option UInt8 := (setting.toNat? (UInt8.size - 1)).map UInt8.ofNat

/-- A setting as a 32-bit word. -/
def word? (setting : Setting) : Option UInt32 := (setting.toNat? (UInt32.size - 1)).map UInt32.ofNat

/-- A setting as a 64-bit word. -/
def longWord? (setting : Setting) : Option UInt64 := (setting.toNat? wordMax).map UInt64.ofNat

/-- The network settings of a section. -/
def networkOf (part : Section) : Except SettingsError NetworkSettings := do
  return {
    preset := ← part.required Setting.toText? "preset" 0
    marker := ← part.optional Setting.toText? "marker" 1
    packetSize := ← part.optional longWord? "packet_size" 2
    maxPackets := ← part.optional longWord? "max_packets" 3
    maxPushSize := ← part.optional longWord? "max_push_size" 4
    dustValue := ← part.optional longWord? "dust_value" 5
    exodusAddress := ← part.optional Setting.toText? "exodus_address" 6
    pubkeyHashVersion := ← part.optional byte? "pubkey_hash_version" 7
    scriptHashVersion := ← part.optional byte? "script_hash_version" 8
    legacyScriptHashVersions := ← part.optionalList byte? "legacy_script_hash_versions" 9
    nullDataHeight := ← part.optional word? "null_data_height" 10
    scriptHashHeight := ← part.optional word? "script_hash_height" 11
    multisigHeight := ← part.optional word? "multisig_height" 12 }

/-- The node settings of a section. -/
def rpcOf (part : Section) : Except SettingsError RpcSettings := do
  return {
    url := ← part.required Setting.toText? "url" 0
    username := ← part.required Setting.toText? "username" 1
    password := ← part.required Setting.toText? "password" 2
    timeoutSeconds := ← part.required longWord? "timeout_seconds" 3
    maxRetries := ← part.required longWord? "max_retries" 4
    initialBackoffMs := ← part.required longWord? "initial_backoff_ms" 5
    backoffMultiplier := ← part.required Setting.toFloat? "backoff_multiplier" 6
    maxBackoffSeconds := ← part.required longWord? "max_backoff_seconds" 7
    concurrentRequests := ← part.required longWord? "concurrent_requests" 8 }

/-- The section of a tree with a name. -/
def sectionOf (tree : Setting) (name shape : String) (size : Nat) : Section :=
  ⟨name, shape, size, (Setting.find? name tree.fields).getD .missing⟩

/-- The settings that a **tree** holds. -/
def ofTree (tree : Setting) : Except SettingsError Settings := do
  return {
    network := ← networkOf (sectionOf tree "network" "NetworkConfig" 13)
    threads :=
      ← (sectionOf tree "processing" "ProcessingConfig" 1).required longWord? "threads" 0
    rpc := ← rpcOf (sectionOf tree "bitcoin_rpc" "BitcoinRpcConfig" 9) }

/-- The tree of a node's settings. -/
def rpcTree (rpc : RpcSettings) : Setting :=
  .table
    [("url", .text rpc.url),
     ("username", .text rpc.username),
     ("password", .text rpc.password),
     ("timeout_seconds", .integer rpc.timeoutSeconds.toNat),
     ("max_retries", .integer rpc.maxRetries.toNat),
     ("initial_backoff_ms", .integer rpc.initialBackoffMs.toNat),
     ("backoff_multiplier", .float rpc.backoffMultiplier),
     ("max_backoff_seconds", .integer rpc.maxBackoffSeconds.toNat),
     ("concurrent_requests", .integer rpc.concurrentRequests.toNat)]

/-- The **built-in** settings on a host. -/
def builtIn (host : Host) : Settings :=
  { network := {}, threads := UInt64.ofNat host.workers, rpc := {} }

/-- The tree of the built-in settings. -/
def builtInTree (host : Host) : Setting :=
  .table
    [("network", .table [("preset", .text (builtIn host).network.preset)]),
     ("processing", .table [("threads", .integer host.workers)]),
     ("bitcoin_rpc", rpcTree (builtIn host).rpc)]

/-- Writes a **source**, keys with settings, over a tree. Its keys may be paths. -/
def writeSource (tree : Setting) (source : List (String × Setting)) : Setting :=
  source.foldl
    (fun tree (key, value) => Setting.assignAt value (SettingPath.ofKey key) tree) tree

/-- The setting that the value of an environment variable spells: a truth value, an integer, a
floating-point number, or failing these a text. -/
def variableSetting (value : String) : Setting :=
  let word := Text.lower value
  if word = "true" then .boolean true
  else if word = "false" then .boolean false
  else
    match Decimal.int? Decimal.lowInt64 Decimal.highInt64 value.toList with
    | some n => .integer n
    | none =>
      match Binary64.ofText? value with
      | some x => .float x
      | none => .text value

/-- What environment variables for settings start with, in lower case. -/
def variableStart : List Char := "omni_".toList

/-- A name in which two underscores in a row have become a dot. -/
def dotted : List Char → List Char
  | '_' :: '_' :: rest => '.' :: dotted rest
  | c :: rest => c :: dotted rest
  | [] => []

/-- The key that an environment variable is for, if it is for one. -/
def variableKey? (name : String) : Option String :=
  let cs := (Text.lower name).toList
  if variableStart.isPrefixOf cs then
    some (String.ofList (dotted (cs.drop variableStart.length)))
  else none

/-- The source that the **environment variables** make. -/
def variableSource (host : Host) : List (String × Setting) :=
  host.environment.filterMap fun (name, value) =>
    (variableKey? name).map fun key => (key, variableSetting value)

/-- Node settings in which three variables of their own name replace three fields. -/
def overrideRpc (host : Host) (rpc : RpcSettings) : RpcSettings :=
  { rpc with
    url := (host.lookup? "BITCOIN_RPC_URL").getD rpc.url
    username := (host.lookup? "BITCOIN_RPC_USERNAME").getD rpc.username
    password := (host.lookup? "BITCOIN_RPC_PASSWORD").getD rpc.password }

/-- The settings that the fields of a file and the environment variables make **together**. -/
def givenTree (host : Host) (file : List (String × Setting)) : Setting :=
  writeSource (writeSource (.table []) file) (variableSource host)

/-- The settings from the built-in ones, the fields of a file and the environment variables. The
last two are put together before they are written over the first, so a section of the file that
gives way to a variable leaves the built-in section in place. -/
def ofSources (host : Host) (file : List (String × Setting)) : Except SettingsError Settings := do
  let settings ← ofTree (writeSource (builtInTree host) (givenTree host file).fields)
  let settings := { settings with rpc := overrideRpc host settings.rpc }
  match settings.network.params with
  | .ok _ => return settings
  | .error cause => throw (.refused cause)

/-- The source that the text of a file makes. -/
def fileSource (text : String) : Except SettingsError (List (String × Setting)) :=
  match Toml.fieldsOfText? text with
  | some fields => .ok (Setting.ofTomlFields fields)
  | none => .error .notToml

/-- The file that is read where no other is named. -/
def defaultPath : String := "config.toml"

/-- **Loads** settings with the file in the working directory, if there is one. -/
def load (host : Host) : Except SettingsError Settings :=
  match host.file defaultPath with
  | none => ofSources host []
  | some text => do ofSources host (← fileSource text)

/-- **Loads** settings with a file that must be there. The path is one of a TOML file, named in full
with its extension `.toml`: files in other formats, and names to be completed, are not read. -/
def loadFrom (host : Host) (path : String) : Except SettingsError Settings :=
  match host.file path with
  | none => .error (.noFile path)
  | some text => do ofSources host (← fileSource text)

/-- Loads settings with the file in the working directory; the built-in ones stand in for settings
that cannot be loaded. -/
def loadOrBuiltIn (host : Host) : Settings :=
  match load host with
  | .ok settings => settings
  | .error _ => builtIn host

end Settings

end OmniLayer
