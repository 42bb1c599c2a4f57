import OmniLayer.Command.Run

/-! # The program

The outer layer of the program: it gathers the host, runs the command, and prints. It opens no
connections itself, so every call to a node fails like one without a network. -/

namespace OmniLayer.Main

/-- The overview of the command line. -/
def overview : String :=
  "Classify, decode and encode Omni Layer transactions of classes A, B and C\n\n" ++
  "Commands:\n" ++
  "  decode TXID... --height N [--time N] [--format text|json] [NODE] [SETTINGS]\n" ++
  "  decode-raw HEX --height N [--time N] [--prevout TXID:VOUT:VALUE:SCRIPT]... " ++
  "[--format text|json] [SETTINGS]\n" ++
  "  inspect TXID --height N [--format text|json] [NODE] [SETTINGS]\n" ++
  "  encode [SETTINGS] class-a --receiver ADDRESS --payload HEX\n" ++
  "  encode [SETTINGS] class-b --sender ADDRESS --redeeming-pubkey HEX --payload HEX\n" ++
  "  encode [SETTINGS] class-c [--receiver ADDRESS] --payload HEX\n" ++
  "  test-rpc [NODE] [SETTINGS]\n" ++
  "  show-config [SETTINGS]\n\n" ++
  "NODE:     --rpc-url URL, --rpc-username NAME, --rpc-password TEXT\n" ++
  "SETTINGS: --config FILE, --network bitcoin|testnet|regtest\n"

/-- The version of the program. -/
def version : String := "omni-codec 0.1.0\n"

/-- What every call to a node fails with, in the words of the machine. -/
def networkDown : CallFailure := .transport "minreq: Network is unreachable (os error 101)"

/-- The settings that a command chooses. -/
def settingsOf : Command → SettingsChoice
  | .decode _ _ _ _ _ settings => settings
  | .decodeRaw _ _ _ _ _ settings => settings
  | .inspect _ _ _ _ settings => settings
  | .encode _ settings => settings
  | .testNode _ settings => settings
  | .showSettings settings => settings

/-- The content of a file that can be read. -/
def readText (path : String) : IO (Option String) := do
  try
    let text ← IO.FS.readFile path
    return some text
  catch _ => return none

/-- The pieces of bytes between zero bytes. -/
def splitAtZeros (bytes : List UInt8) : List (List UInt8) :=
  bytes.foldr (fun b pieces =>
    if b = 0 then [] :: pieces
    else match pieces with
      | [] => [[b]]
      | piece :: rest => (b :: piece) :: rest) [[]]

/-- An environment variable from its bytes: a name, an equals sign, a value. -/
def variableOf (bytes : List UInt8) : Option (String × String) := do
  let text ← String.fromUTF8? ⟨bytes.toArray⟩
  match text.toList.dropWhile (· != '=') with
  | [] => none
  | _ :: value => some (String.ofList (text.toList.takeWhile (· != '=')), String.ofList value)

/-- The environment variables of the program. -/
def readVariables : IO (List (String × String)) := do
  try
    let bytes ← IO.FS.readBinFile "/proc/self/environ"
    return (splitAtZeros bytes.toList).filterMap variableOf
  catch _ => return []

/-- The number of threads that the machine runs at once. -/
def readWorkers : IO Nat := do
  let text := (← readText "/proc/cpuinfo").getD ""
  let lines := (Text.splitOn '\n' text.toList).filter fun line =>
    "processor".toList.isPrefixOf line
  return max 1 lines.length

/-- Gathers what a command sees of the machine. -/
def readHost (command : Command) : IO Host := do
  let paths := Settings.defaultPath :: (settingsOf command).path.toList
  let mut files : List (String × String) := []
  for path in paths do
    if let some text ← readText path then files := (path, text) :: files
  let environment ← readVariables
  let workers ← readWorkers
  return {
    workers := workers
    environment := environment
    file := fun path => (files.find? fun file => file.1 == path).map (·.2) }

end OmniLayer.Main

open OmniLayer in
/-- Runs the command that the arguments spell. -/
def main (words : List String) : IO UInt32 := do
  match Command.ofWords words with
  | .error .helpRequested =>
    IO.print Main.overview
    return 0
  | .error .versionRequested =>
    IO.print Main.version
    return 0
  | .error error =>
    IO.eprintln ("error: " ++ error.message)
    IO.eprint Main.overview
    return 2
  | .ok command =>
    let host ← Main.readHost command
    let result := Command.run host (fun _ => Node.unreachable Main.networkDown) command
    IO.print result.output
    match result.error with
    | none => return 0
    | some error =>
      IO.eprintln ("Error: " ++ error.message)
      return 1
