import OmniLayer.Command
import OmniLayer.Command.Error
import OmniLayer.Inspection.Report

/-! # Running commands

What a command prints and whether it fails, as a function of the host and of the node that given
settings lead to. -/

namespace OmniLayer

/-- What comes of a **command**: the text that it prints, and its error if it fails. -/
structure CommandResult where
  /-- What is printed. -/
  output : String
  /-- Why the command fails. -/
  error : Option CommandError
  deriving DecidableEq, Repr

/-- The result of a command that prints when it succeeds only. -/
def CommandResult.ofExcept : Except CommandError String → CommandResult
  | .ok output => ⟨output, none⟩
  | .error error => ⟨"", some error⟩

namespace SettingsChoice

/-- Settings with another preset. -/
def withPreset (settings : Settings) (preset : String) : Settings :=
  { settings with network := { settings.network with preset := preset } }

/-- The **settings** that were chosen. A file that was named must be good; settings that were not
chosen are replaced by the built-in ones if they are not. -/
def load (choice : SettingsChoice) (host : Host) : Except CommandError Settings := do
  let settings ← match choice.path with
    | some path => (Settings.loadFrom host path).mapError (CommandError.settings path)
    | none => .ok (Settings.loadOrBuiltIn host)
  return (choice.network.map (withPreset settings)).getD settings

/-- The settings that were chosen and the **parameters** of their network. -/
def loadParams (choice : SettingsChoice) (host : Host) :
    Except CommandError (Settings × Params) := do
  let settings ← choice.load host
  let params ← settings.network.params.mapError CommandError.network
  return (settings, params)

end SettingsChoice

/-- Node settings with the fields replaced that were chosen. -/
def NodeChoice.override (choice : NodeChoice) (rpc : RpcSettings) : RpcSettings :=
  { rpc with
    url := choice.url.getD rpc.url
    username := choice.username.getD rpc.username
    password := choice.password.getD rpc.password }

/-- Fetches transactions in turn, each with the coins that it may spend; coins fetched later replace
those fetched before. -/
def Client.fetchAll (client : Client) (coins : CoinView) :
    List Txid → Except RpcError (List Transaction × CoinView)
  | [] => .ok ([], coins)
  | txid :: rest => do
    let (tx, client) := client.getTransaction txid
    let tx ← tx
    let (view, client) := client.fetchCoinView tx
    let (txs, coins) ← fetchAll client (FinMap.merge coins (← view)) rest
    return (tx :: txs, coins)

namespace Command

/-- **Joins** reports: text with a blank line between them, several in JSON as a list. -/
def joinReports (format : ReportFormat) (reports : List String) : String :=
  match format, reports with
  | .text, reports => String.intercalate "\n\n" reports ++ "\n"
  | .json, [report] => report ++ "\n"
  | .json, reports => "[\n" ++ String.intercalate ",\n" reports ++ "\n]\n"

/-- Fetches and **decodes** transactions, with a report on each. -/
def decodeReports (host : Host) (reach : RpcSettings → Node) (txids : List String)
    (height time : UInt32) (format : ReportFormat) (node : NodeChoice)
    (choice : SettingsChoice) : Except CommandError (List String) := do
  let (settings, params) ← choice.loadParams host
  let txids ← (txids.mapM Txid.parse).mapError CommandError.node
  let rpc := node.override settings.rpc
  let client ← (Client.connect (reach rpc) rpc).mapError CommandError.ofConnect
  let (txs, coins) ← (client.fetchAll FinMap.empty txids).mapError CommandError.node
  let results ← (Transaction.parseBatch params coins.resolve height time settings.threads.toNat
    txs).mapError CommandError.batch
  return (txids.zip results).map fun (txid, result) => ParseResult.report txid.text result format

/-- Decodes transactions and prints the reports. -/
def runDecode (host : Host) (reach : RpcSettings → Node) (txids : List String)
    (height time : UInt32) (format : ReportFormat) (node : NodeChoice)
    (choice : SettingsChoice) : Except CommandError String :=
  (decodeReports host reach txids height time format node choice).map (joinReports format)

/-- **Decodes** a transaction with the coins it spends. -/
def runDecodeRaw (host : Host) (raw : String) (height time : UInt32) (prevouts : List String)
    (format : ReportFormat) (choice : SettingsChoice) : Except CommandError String := do
  let (_, params) ← choice.loadParams host
  let tx ← (Transaction.decodeRaw raw).mapError CommandError.node
  let coins : CoinView := FinMap.ofList (← prevouts.mapM Prevout.parse)
  let result := tx.parse params coins.resolve height time
  if result.brokeOff then throw .brokenOff
  else return ParseResult.report tx.txid.text result format ++ "\n"

/-- Fetches and **inspects** a transaction. -/
def runInspect (host : Host) (reach : RpcSettings → Node) (txid : String) (height : UInt32)
    (format : ReportFormat) (node : NodeChoice) (choice : SettingsChoice) :
    Except CommandError String := do
  let (settings, params) ← choice.loadParams host
  let txid ← (Txid.parse txid).mapError CommandError.node
  let rpc := node.override settings.rpc
  let client ← (Client.connect (reach rpc) rpc).mapError CommandError.ofConnect
  let inspection ← (client.inspect params height txid).1.mapError CommandError.ofInspect
  return match format with
    | .text => inspection.text
    | .json => inspection.toJson.pretty ++ "\n"

/-- **Lays out** a payload. -/
def runEncode (host : Host) (request : RequestText) (choice : SettingsChoice) :
    Except CommandError String := do
  let (_, params) ← choice.loadParams host
  let request ← request.toRequest.mapError CommandError.hex
  let outputs ← (request.encode params).mapError CommandError.ofEncode
  return (outputsToJson params outputs).pretty ++ "\n"

/-- The report of a node that cannot be connected to. -/
def connectionReport (cause : RpcError) : String :=
  "Bitcoin RPC connection test FAILED\n" ++
  "Error: " ++ cause.message ++ "\n" ++
  "\nTroubleshooting tips:\n" ++
  "1. Check that Bitcoin Core is running\n" ++
  "2. Verify the RPC URL is correct\n" ++
  "3. Ensure RPC credentials are valid\n" ++
  "4. Check that RPC server is enabled in bitcoin.conf\n"

/-- The report of a node's chain. -/
def chainReport (info : ChainInfo) : String :=
  "Bitcoin RPC connection test PASSED\n" ++
  "Chain: " ++ info.chain ++ ", blocks: " ++ Decimal.natText info.blocks.toNat ++ "\n"

/-- **Tests** the connection to the node. -/
def runTestNode (host : Host) (reach : RpcSettings → Node) (node : NodeChoice)
    (choice : SettingsChoice) : CommandResult :=
  match choice.load host with
  | .error error => ⟨"", some error⟩
  | .ok settings =>
    let rpc := node.override settings.rpc
    match Client.connect (reach rpc) rpc with
    | .error .tooManyPermits => ⟨"", some .brokenOff⟩
    | .error cause => ⟨connectionReport cause, some (.node cause)⟩
    | .ok client =>
      .ofExcept ((client.testConnection.1.mapError CommandError.node).map chainReport)

/-- **Writes** the settings, if their network is accepted. -/
def runShowSettings (host : Host) (choice : SettingsChoice) : Except CommandError String := do
  let (settings, _) ← choice.loadParams host
  settings.toToml.mapError CommandError.layout

/-- **Runs** a command. -/
def run (host : Host) (reach : RpcSettings → Node) : Command → CommandResult
  | .decode txids height time format node settings =>
    .ofExcept (runDecode host reach txids height time format node settings)
  | .decodeRaw raw height time prevouts format settings =>
    .ofExcept (runDecodeRaw host raw height time prevouts format settings)
  | .inspect txid height format node settings =>
    .ofExcept (runInspect host reach txid height format node settings)
  | .encode request settings => .ofExcept (runEncode host request settings)
  | .testNode node settings => runTestNode host reach node settings
  | .showSettings settings => .ofExcept (runShowSettings host settings)

end Command

end OmniLayer
