import OmniLayer.Outcome
import OmniLayer.Text.Json

/-! # Reports of outcomes

The text and the JSON form of outcomes, and the reader of the JSON form. The reader accepts an
object with a status and the fields of a message in any order, further fields and either case of
hexadecimal digits; it also accepts the same values as a plain list in the order of the fields. -/

namespace OmniLayer

namespace Message

/-- The **fields** of a message in JSON. -/
def fields (message : Message) : List (String × Json) :=
  [("txid", .string message.txid),
   ("sender", .string message.sender),
   ("receiver", .optional message.receiver),
   ("fee", .integer message.fee.toInt),
   ("payload", .string (Hex.encode message.payload)),
   ("encoding_class", .string message.carrier.letter),
   ("block_height", .nat message.blockHeight.toNat),
   ("block_time", .nat message.blockTime.toNat)]

/-- The lines that report a message. -/
def lines (message : Message) : List String :=
  let header := match message.header? with
    | none => []
    | some header =>
      let name := (header.knownType?.map MessageType.name).getD "unknown"
      ["Message:     version " ++ Decimal.natText header.version.toNat ++ " type " ++
        Decimal.natText header.messageType.toNat ++ " (" ++ name ++ ")"]
  ["Transaction: " ++ message.txid,
   "Class:       " ++ message.carrier.letter,
   "Sender:      " ++ message.sender,
   "Receiver:    " ++ message.receiver.getD "-",
   "Fee:         " ++ Decimal.intText message.fee.toInt ++ " sats",
   "Block:       " ++ Decimal.natText message.blockHeight.toNat ++ " (" ++
     Decimal.natText message.blockTime.toNat ++ ")",
   "Payload:     " ++ Hex.encode message.payload] ++ header

/-- Reads a text. -/
def text? : Json → Option String
  | .string text => some text
  | _ => none

/-- Reads a text that may be missing or `null`. -/
def optionalText? : Option Json → Option (Option String)
  | none => some none
  | some .null => some none
  | some (.string text) => some (some text)
  | some _ => none

/-- Reads a signed 64-bit word. -/
def int64? : Json → Option Int64
  | .integer n =>
    if Decimal.lowInt64 ≤ n ∧ n ≤ Decimal.highInt64 then some (Int64.ofInt n) else none
  | _ => none

/-- Reads a 32-bit word. -/
def uint32? : Json → Option UInt32
  | .integer n => if 0 ≤ n ∧ n < UInt32.size then some (UInt32.ofNat n.toNat) else none
  | _ => none

/-- Reads hexadecimal text. -/
def hex? (json : Json) : Option Bytes := do (Hex.decode (← text? json)).toOption

/-- Reads the letter of a carrier. An object whose one field bears the letter and is empty also
counts. -/
def carrier? : Json → Option Carrier
  | .string letter => Carrier.ofLetter? letter
  | .object [(letter, .null)] => Carrier.ofLetter? letter
  | .object [(letter, .object [])] => Carrier.ofLetter? letter
  | _ => none

/-- Reads a message from the values of its fields. -/
def ofValues? (txid sender : Json) (receiver : Option Json)
    (fee payload carrier blockHeight blockTime : Json) : Option Message := do
  return {
    txid := ← text? txid
    sender := ← text? sender
    receiver := ← optionalText? receiver
    fee := ← int64? fee
    payload := ← hex? payload
    carrier := ← carrier? carrier
    blockHeight := ← uint32? blockHeight
    blockTime := ← uint32? blockTime }

/-- Reads a message from **fields**. -/
def ofFields? (fields : List (String × Json)) : Option Message := do
  ofValues? (← Json.field? "txid" fields) (← Json.field? "sender" fields)
    (Json.field? "receiver" fields) (← Json.field? "fee" fields)
    (← Json.field? "payload" fields) (← Json.field? "encoding_class" fields)
    (← Json.field? "block_height" fields) (← Json.field? "block_time" fields)

/-- Reads a message from a plain list of values. -/
def ofItems? : List Json → Option Message
  | [txid, sender, receiver, fee, payload, carrier, blockHeight, blockTime] =>
    ofValues? txid sender (some receiver) fee payload carrier blockHeight blockTime
  | _ => none

end Message

namespace Outcome

/-- The fields of an outcome in JSON. -/
def fields : Outcome → List (String × Json)
  | .message m => ("status", .string "message") :: m.fields
  | .notProtocol => [("status", .string "not_protocol")]

/-- An outcome in **JSON**. -/
def toJson (outcome : Outcome) : Json := .object outcome.fields

/-- Reads an outcome from **JSON**. -/
def ofJson? : Json → Option Outcome
  | .object fields =>
    match Json.field? "status" fields with
    | some (.string "message") => (Message.ofFields? fields).map .message
    | some (.string "not_protocol") => some .notProtocol
    | _ => none
  | .array (.string "message" :: items) => (Message.ofItems? items).map .message
  | .array [.string "not_protocol"] => some .notProtocol
  | _ => none

end Outcome

/-- The **form** of a report. -/
inductive ReportFormat
  /-- Lines of text. -/
  | text
  /-- Indented JSON. -/
  | json
  deriving DecidableEq, Repr

namespace ParseResult

/-- The JSON form of a result, with its keys in ascending order. -/
def toJson (txid : String) : ParseResult → Json
  | .ok outcome => Json.sortedObject outcome.fields
  | .error error =>
    Json.sortedObject
      [("status", .string "error"), ("txid", .string txid), ("error", .string error.message)]

/-- The text form of a result. -/
def text (txid : String) : ParseResult → String
  | .ok (.message m) => String.intercalate "\n" m.lines
  | .ok .notProtocol => "Transaction: " ++ txid ++ "\nResult:      no protocol payload"
  | .error error => "Transaction: " ++ txid ++ "\nError:       " ++ error.message

/-- The **report** of a result. -/
def report (txid : String) (result : ParseResult) : ReportFormat → String
  | .text => text txid result
  | .json => (toJson txid result).pretty

end ParseResult

end OmniLayer
