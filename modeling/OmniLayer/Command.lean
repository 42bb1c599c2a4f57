import OmniLayer.Carrier.Report
import OmniLayer.Command.Usage

/-! # Commands

The commands of the program with their arguments, and the grammar of the command line. -/

namespace OmniLayer

/-- Which **settings** a command uses. -/
structure SettingsChoice where
  /-- The file with the settings, if not the usual one. -/
  path : Option String := none
  /-- The preset that replaces that of the settings. -/
  network : Option String := none
  deriving DecidableEq, Repr

/-- What replaces the settings of the **node**. -/
structure NodeChoice where
  /-- Where the node listens. -/
  url : Option String := none
  /-- The user's name. -/
  username : Option String := none
  /-- The user's password. -/
  password : Option String := none
  deriving DecidableEq, Repr

/-- A **command**. -/
inductive Command
  /-- Fetches transactions and decodes them. -/
  | decode (txids : List String) (height time : UInt32) (format : ReportFormat)
    (node : NodeChoice) (settings : SettingsChoice)
  /-- Decodes a transaction that is given with the coins it spends. -/
  | decodeRaw (raw : String) (height time : UInt32) (prevouts : List String)
    (format : ReportFormat) (settings : SettingsChoice)
  /-- Fetches a transaction and shows every step of its parse. -/
  | inspect (txid : String) (height : UInt32) (format : ReportFormat) (node : NodeChoice)
    (settings : SettingsChoice)
  /-- Lays out a payload. -/
  | encode (request : RequestText) (settings : SettingsChoice)
  /-- Asks the node what its chain is. -/
  | testNode (node : NodeChoice) (settings : SettingsChoice)
  /-- Writes the settings. -/
  | showSettings (settings : SettingsChoice)
  deriving DecidableEq, Repr

namespace Command

open Usage

/-- The options for settings. -/
def settingsOptions : List NamedArgument :=
  [{ name := "config", kind := .path }, { name := "network", kind := .text }]

/-- The options for the node. -/
def nodeOptions : List NamedArgument :=
  [{ name := "rpc-url", kind := .text },
   { name := "rpc-username", kind := .text },
   { name := "rpc-password", kind := .text }]

/-- The option for the height of a block. -/
def heightOption : NamedArgument := { name := "height", kind := .word, isRequired := true }

/-- The option for the time of a block. -/
def timeOption : NamedArgument := { name := "time", kind := .word }

/-- The option for the form of reports. -/
def formatOption : NamedArgument := { name := "format", kind := .format }

/-- The option for coins. -/
def prevoutOption : NamedArgument := { name := "prevout", kind := .text, isRepeatable := true }

/-- An option that must be given. -/
def requiredText (name : String) : NamedArgument :=
  { name := name, kind := .text, isRequired := true }

/-- The settings that were chosen. -/
def settingsChoice (scan : Scan) : SettingsChoice := ⟨scan.text? "config", scan.text? "network"⟩

/-- The node that was chosen. -/
def nodeChoice (scan : Scan) : NodeChoice :=
  ⟨scan.text? "rpc-url", scan.text? "rpc-username", scan.text? "rpc-password"⟩

/-- A text that the grammar requires. -/
def requiredOf (scan : Scan) (name : String) : String := (scan.text? name).getD ""

/-- A word, zero unless it is given. -/
def wordOf (scan : Scan) (name : String) : UInt32 := (scan.word? name).getD 0

/-- Reads the carrier to lay out a payload for, with its arguments. -/
def requestOf : Subcommand → Except UsageError RequestText
  | ("class-a", words) => do
    let scan ← scanAll { options := [requiredText "receiver", requiredText "payload"] } words
    return .address (requiredOf scan "receiver") (requiredOf scan "payload")
  | ("class-b", words) => do
    let scan ← scanAll
      { options :=
          [requiredText "sender", requiredText "redeeming-pubkey", requiredText "payload"] } words
    return .multisig (requiredOf scan "sender") (requiredOf scan "redeeming-pubkey")
      (requiredOf scan "payload")
  | ("class-c", words) => do
    let scan ← scanAll
      { options := [{ name := "receiver", kind := .text }, requiredText "payload"] } words
    return .nullData (scan.text? "receiver") (requiredOf scan "payload")
  | _ => throw .unknownSubcommand

/-- The names of the commands. -/
def names : List String :=
  ["decode", "decode-raw", "inspect", "encode", "test-rpc", "show-config"]

/-- The names of the carriers that a payload can be laid out for. -/
def carrierNames : List String := ["class-a", "class-b", "class-c"]

/-- The error of a question for the overview of the command with some names. -/
def helpFor : List String → UsageError
  | [] => .helpRequested
  | ["help"] => .helpRequested
  | [name] => if names.contains name then .helpRequested else .unknownSubcommand
  | ["encode", name] =>
    if name = "help" ∨ carrierNames.contains name then .helpRequested else .unknownSubcommand
  | _ => .unknownSubcommand

/-- Reads a carrier, or a question for the overview of one. -/
def requestOrHelp : Subcommand → Except UsageError RequestText
  | ("help", words) => throw (helpFor ("encode" :: words))
  | subcommand => requestOf subcommand

/-- Reads the command with a name. -/
def ofSubcommand : Subcommand → Except UsageError Command
  | ("decode", words) => do
    let scan ← scanAll
      { options := [heightOption, timeOption, formatOption] ++ nodeOptions ++ settingsOptions
        operands := .many } words
    return .decode scan.operands (wordOf scan "height") (wordOf scan "time") scan.format
      (nodeChoice scan) (settingsChoice scan)
  | ("decode-raw", words) => do
    let scan ← scanAll
      { options := [heightOption, timeOption, prevoutOption, formatOption] ++ settingsOptions
        operands := .one } words
    return .decodeRaw (scan.operands.headD "") (wordOf scan "height") (wordOf scan "time")
      (scan.texts "prevout") scan.format (settingsChoice scan)
  | ("inspect", words) => do
    let scan ← scanAll
      { options := [heightOption, formatOption] ++ nodeOptions ++ settingsOptions
        operands := .one } words
    return .inspect (scan.operands.headD "") (wordOf scan "height") scan.format
      (nodeChoice scan) (settingsChoice scan)
  | ("encode", words) => do
    let (scan, request) ← scanOuter
      { options := settingsOptions, subcommands := carrierNames } requestOrHelp words
    return .encode request (settingsChoice scan)
  | ("test-rpc", words) => do
    let scan ← scanAll { options := nodeOptions ++ settingsOptions } words
    return .testNode (nodeChoice scan) (settingsChoice scan)
  | ("show-config", words) => do
    let scan ← scanAll { options := settingsOptions } words
    return .showSettings (settingsChoice scan)
  | ("help", words) => throw (helpFor words)
  | _ => throw .unknownSubcommand

/-- Reads a **command line**. -/
def ofWords (words : List String) : Except UsageError Command := do
  let (_, command) ← scanOuter { subcommands := names, hasVersion := true } ofSubcommand words
  return command

end Command

end OmniLayer
