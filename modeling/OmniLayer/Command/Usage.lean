import OmniLayer.Outcome.Report
import OmniLayer.Text.Decimal

/-! # Arguments

The words of a command line, scanned by a grammar: options with one value each, operands, and the
name of a subcommand, behind which the words belong to that. A value is checked when the word after
it is looked at, so of two faults the one that is passed first is reported. -/

namespace OmniLayer

/-- Why words are no **command**. -/
inductive UsageError
  /-- The overview is asked for. -/
  | helpRequested
  /-- The version is asked for. -/
  | versionRequested
  /-- There are no words where a subcommand has to stand. -/
  | noWords
  /-- There are options, and no subcommand behind them. -/
  | missingSubcommand
  /-- A word stands where the name of a subcommand has to stand. -/
  | unknownSubcommand
  /-- A word is no option, and nothing else that may stand there. -/
  | unknownArgument
  /-- An option that must be given once at most is given again. -/
  | repeatedOption
  /-- A value is missing, empty, or none of those that there are. -/
  | invalidValue
  /-- A value is no 32-bit word. -/
  | malformedValue
  /-- A value is given where none is taken. -/
  | unneededValue
  /-- An option or operand that must be given is not. -/
  | missingArgument
  deriving DecidableEq, Repr

/-- The wording of a usage error. -/
def UsageError.message : UsageError → String
  | .helpRequested => "the overview was asked for"
  | .versionRequested => "the version was asked for"
  | .noWords => "a command is missing"
  | .missingSubcommand => "a subcommand is missing"
  | .unknownSubcommand => "there is no such command"
  | .unknownArgument => "an argument is not known"
  | .repeatedOption => "an option is given more than once"
  | .invalidValue => "a value is missing or not one of those possible"
  | .malformedValue => "a value is not a 32-bit number"
  | .unneededValue => "a value is given where none is taken"
  | .missingArgument => "a required argument is missing"

namespace Usage

/-- What an option's **value** has to be. -/
inductive ValueKind
  /-- Any text. -/
  | text
  /-- A path, which is not empty. -/
  | path
  /-- A 32-bit word. -/
  | word
  /-- The name of a report's form. -/
  | format
  deriving DecidableEq, Repr

/-- A checked **value**. -/
inductive Value
  /-- A text or a path. -/
  | text (value : String)
  /-- A 32-bit word. -/
  | word (value : UInt32)
  /-- The form of a report. -/
  | format (value : ReportFormat)
  deriving DecidableEq, Repr

/-- Checks a value. -/
def ValueKind.check (kind : ValueKind) (text : String) : Except UsageError Value :=
  match kind with
  | .text => .ok (.text text)
  | .path => if text = "" then .error .invalidValue else .ok (.text text)
  | .word =>
    match Decimal.int? 0 (UInt32.size - 1) text.toList with
    | some n => .ok (.word (UInt32.ofNat n.toNat))
    | none => .error .malformedValue
  | .format =>
    if text = "text" then .ok (.format .text)
    else if text = "json" then .ok (.format .json)
    else .error .invalidValue

/-- An **option**: an argument with a name. -/
structure NamedArgument where
  /-- The name behind the two dashes. -/
  name : String
  /-- What its value has to be. -/
  kind : ValueKind
  /-- Whether it must be given. -/
  isRequired : Bool := false
  /-- Whether it may be given more than once. -/
  isRepeatable : Bool := false
  deriving DecidableEq, Repr

/-- The **operands** that a command takes. -/
inductive Operands
  /-- None. -/
  | none
  /-- Exactly one. -/
  | one
  /-- One or more. -/
  | many
  deriving DecidableEq, Repr

/-- The **grammar** of one level of a command line. -/
structure Grammar where
  /-- The options. -/
  options : List NamedArgument := []
  /-- The operands. -/
  operands : Operands := .none
  /-- The names of the subcommands. -/
  subcommands : List String := []
  /-- Whether the version may be asked for. -/
  hasVersion : Bool := false
  deriving DecidableEq, Repr

namespace Grammar

/-- The option with a name. -/
def option? (grammar : Grammar) (name : String) : Option NamedArgument :=
  grammar.options.find? (·.name == name)

/-- Whether a word names a subcommand. Beside subcommands there is always one that asks for the
overview. -/
def isSubcommand (grammar : Grammar) (word : String) : Bool :=
  !grammar.subcommands.isEmpty && (word == "help" || grammar.subcommands.contains word)

/-- Whether one more operand is taken behind `count` of them. -/
def takesOperand (grammar : Grammar) (count : Nat) : Bool :=
  match grammar.operands with
  | .none => false
  | .one => count == 0
  | .many => true

end Grammar

/-- What was **scanned** so far. -/
structure Scan where
  /-- The checked values, with the names of their options. -/
  values : List (String × Value) := []
  /-- The operands. -/
  operands : List String := []
  /-- The option whose value was not checked yet, with the value if there was one. -/
  pending : Option (NamedArgument × Option String) := none
  deriving DecidableEq, Repr

namespace Scan

/-- Whether the next word is the value of an option. -/
def awaitsValue (scan : Scan) : Bool :=
  match scan.pending with
  | some (_, none) => true
  | _ => false

/-- Checks the value of an option and keeps it. -/
def accept (scan : Scan) (option : NamedArgument) (text : String) : Except UsageError Scan :=
  if !option.isRepeatable && scan.values.any (·.1 == option.name) then .error .repeatedOption
  else do
    let value ← option.kind.check text
    return { scan with values := scan.values ++ [(option.name, value)] }

/-- Checks the value that was not checked yet. -/
def settle (scan : Scan) : Except UsageError Scan :=
  match scan.pending with
  | none => .ok scan
  | some (_, none) => .error .invalidValue
  | some (option, some text) => { scan with pending := none }.accept option text

/-- Takes a word as the value of the option that awaits one. -/
def supply (scan : Scan) (text : String) : Scan :=
  { scan with pending := scan.pending.map fun (option, _) => (option, some text) }

/-- The first value of an option. -/
def value? (scan : Scan) (name : String) : Option Value :=
  (scan.values.find? (·.1 == name)).map (·.2)

/-- The text of a value. -/
def textOf? : Value → Option String
  | .text text => some text
  | _ => none

/-- The first text of an option. -/
def text? (scan : Scan) (name : String) : Option String := (scan.value? name).bind textOf?

/-- All texts of an option. -/
def texts (scan : Scan) (name : String) : List String :=
  (scan.values.filter (·.1 == name)).filterMap fun value => textOf? value.2

/-- The word of an option. -/
def word? (scan : Scan) (name : String) : Option UInt32 :=
  match scan.value? name with
  | some (.word n) => some n
  | _ => none

/-- The form of reports; text unless another is asked for. -/
def format (scan : Scan) : ReportFormat :=
  match scan.value? "format" with
  | some (.format format) => format
  | _ => .text

end Scan

/-- A word that is written like an **option**. -/
inductive Dashed
  /-- Two dashes and a name, with a value behind an equals sign. -/
  | long (name : String) (value : Option String)
  /-- One dash and a letter. -/
  | short (letter : Char)

/-- Reads a word that is written like an option; a single dash is none. -/
def Dashed.ofWord? (word : String) : Option Dashed :=
  match word.toList with
  | '-' :: '-' :: cs =>
    match cs.dropWhile (· != '=') with
    | [] => some (.long (String.ofList cs) none)
    | _ :: value =>
      some (.long (String.ofList (cs.takeWhile (· != '='))) (some (String.ofList value)))
  | '-' :: letter :: _ => some (.short letter)
  | _ => none

/-- The error for a word that may not stand where it stands. -/
def misplaced (grammar : Grammar) (onlyOperands : Bool) (word : String) : UsageError :=
  if onlyOperands && grammar.isSubcommand word then .unknownArgument
  else if grammar.subcommands.isEmpty then .unknownArgument
  else .unknownSubcommand

/-- Takes a word as an operand. -/
def takeOperand (grammar : Grammar) (onlyOperands : Bool) (scan : Scan) (word : String) :
    Except UsageError Scan :=
  if grammar.takesOperand scan.operands.length then do
    let scan ← scan.settle
    return { scan with operands := scan.operands ++ [word] }
  else .error (misplaced grammar onlyOperands word)

/-- Takes an option; its value may be in the same word. -/
def takeOption (grammar : Grammar) (scan : Scan) (name : String) (value : Option String) :
    Except UsageError Scan :=
  match grammar.option? name, value with
  | some option, some text => do (← scan.settle).accept option text
  | some option, none => do return { ← scan.settle with pending := some (option, none) }
  | none, value =>
    if name = "help" ∨ (name = "version" ∧ grammar.hasVersion) then
      if value.isSome then .error .unneededValue
      else do
        let _ ← scan.settle
        throw (if name = "help" then .helpRequested else .versionRequested)
    else .error .unknownArgument

/-- Takes an option of one letter, of which there are only the two that ask for something. -/
def takeLetter (grammar : Grammar) (scan : Scan) (letter : Char) : Except UsageError Scan :=
  if letter = 'h' then do
    let _ ← scan.settle
    throw .helpRequested
  else if letter = 'V' ∧ grammar.hasVersion then do
    let _ ← scan.settle
    throw .versionRequested
  else .error .unknownArgument

/-- A subcommand with the words behind it. -/
abbrev Subcommand := String × List String

/-- **Scans** words up to their end or to a subcommand. Behind two dashes alone all words are
operands. -/
def scanWords (grammar : Grammar) : (onlyOperands : Bool) → Scan → List String →
    Except UsageError (Scan × Option Subcommand)
  | _, scan, [] => .ok (scan, none)
  | true, scan, word :: rest => do
    let scan ← takeOperand grammar true scan word
    scanWords grammar true scan rest
  | false, scan, word :: rest =>
    if !scan.awaitsValue && grammar.isSubcommand word then .ok (scan, some (word, rest))
    else if word = "--" then scanWords grammar true scan rest
    else
      match Dashed.ofWord? word with
      | some (.long name value) => do
        let scan ← takeOption grammar scan name value
        scanWords grammar false scan rest
      | some (.short letter) => do
        let scan ← takeLetter grammar scan letter
        scanWords grammar false scan rest
      | none =>
        if scan.awaitsValue then scanWords grammar false (scan.supply word) rest
        else do
          let scan ← takeOperand grammar false scan word
          scanWords grammar false scan rest

/-- Scans the words of a command without subcommands, and checks that nothing is missing. -/
def scanAll (grammar : Grammar) (words : List String) : Except UsageError Scan := do
  let (scan, _) ← scanWords grammar false {} words
  let scan ← scan.settle
  let hasOptions := grammar.options.all fun option =>
    !option.isRequired || (scan.value? option.name).isSome
  let hasOperands := grammar.operands == .none || !scan.operands.isEmpty
  if hasOptions && hasOperands then return scan else throw .missingArgument

/-- Scans the words of a command with subcommands; `inner` reads the subcommand. The values in front
of a subcommand are checked behind it. -/
def scanOuter {α : Type} (grammar : Grammar) (inner : Subcommand → Except UsageError α)
    (words : List String) : Except UsageError (Scan × α) := do
  match ← scanWords grammar false {} words with
  | (scan, some subcommand) =>
    let result ← inner subcommand
    let scan ← scan.settle
    return (scan, result)
  | (scan, none) =>
    let scan ← scan.settle
    throw (if scan.values.isEmpty then .noWords else .missingSubcommand)

end Usage

end OmniLayer
