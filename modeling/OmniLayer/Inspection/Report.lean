import OmniLayer.Inspection

/-! # Reports of inspections

The text and the JSON form of an inspection. -/

namespace OmniLayer

/-- A decision in words. -/
def Decision.description : Decision → String
  | .carrier c => "Class " ++ c.letter
  | .notProtocol => "not a protocol transaction"
  | .notActivated => "tagged null data before activation"
  | .splitMarker => "marker split across pushes"

/-- A text filled up on the left to a width. -/
def alignRight (width : Nat) (text : String) : String :=
  String.ofList (List.replicate (width - text.length) ' ') ++ text

/-- A text filled up on the right to a width. -/
def alignLeft (width : Nat) (text : String) : String :=
  text ++ String.ofList (List.replicate (width - text.length) ' ')

/-- The JSON form of an output. -/
def OutputView.toJson (output : OutputView) : Json :=
  .object
    [("vout", .nat output.vout),
     ("value", .nat output.value.toNat),
     ("script_class", .string output.scriptClass.name),
     ("address", .optional output.address),
     ("exodus", .bool output.exodus),
     ("allowed", .bool output.allowed)]

/-- The line of an output. -/
def OutputView.line (output : OutputView) : String :=
  "  [" ++ Decimal.natText output.vout ++ "] " ++
    alignRight 12 (Decimal.natText output.value.toNat) ++ " sats  " ++
    alignLeft 11 output.scriptClass.name ++ " " ++ output.address.getD "-" ++
    (if output.exodus then " (exodus)" else "") ++
    (if output.allowed then "" else " (not allowed)")

namespace MultisigCarrier.Packet

/-- The JSON form of a packet. -/
def toJson (packet : Packet) : Json :=
  .object
    [("vout", .nat packet.vout),
     ("position", .nat packet.position),
     ("sequence", .nat packet.sequence),
     ("obfuscated", .string (Hex.encode packet.obfuscated)),
     ("clear", .string (Hex.encode packet.clear))]

/-- The lines of a packet. -/
def lines (packet : Packet) : List String :=
  ["  #" ++ alignLeft 3 (Decimal.natText packet.sequence) ++ " vout " ++
     Decimal.natText packet.vout ++ " key " ++ Decimal.natText packet.position ++
     "  obfuscated " ++ Hex.encode packet.obfuscated,
   "        seq byte " ++
     alignLeft 3 (Decimal.natText (packet.embeddedSequence?.getD 0).toNat) ++
     " clear      " ++ Hex.encode packet.clear]

end MultisigCarrier.Packet

namespace Inspection

/-- An inspection in **JSON**. -/
def toJson (inspection : Inspection) : Json :=
  .object
    [("txid", .string inspection.txid.text),
     ("height", .nat inspection.height.toNat),
     ("input_count", .nat inspection.inputCount),
     ("outputs", .array (inspection.outputs.map OutputView.toJson)),
     ("decision", .string inspection.decision.description),
     ("class", .optional (inspection.carrier?.map Carrier.letter)),
     ("sender_algorithm", .optional (inspection.senderRule?.map SenderRule.key)),
     ("sender", .optional inspection.sender?),
     ("sender_error", .optional inspection.senderError?),
     ("packets",
       .array ((inspection.packets.toOption.getD []).map MultisigCarrier.Packet.toJson)),
     ("packet_error", .optional inspection.packetError?),
     ("outcome", (inspection.outcome?.map Outcome.toJson).getD .null),
     ("parse_error", .optional inspection.parseError?)]

/-- The lines on the sender. -/
def senderLines (inspection : Inspection) : List String :=
  let rule := match inspection.senderRule? with
    | none => []
    | some rule => ["Sender algo: " ++ rule.name]
  let sender := match inspection.sender with
    | none => []
    | some (.ok sender) => ["Sender:      " ++ sender]
    | some (.error e) => ["Sender:      unresolved (" ++ e.message ++ ")"]
  rule ++ sender

/-- The lines on the packets. -/
def packetLines (inspection : Inspection) : List String :=
  match inspection.packets with
  | .ok [] => []
  | .ok packets => "" :: "Class B packets:" :: packets.flatMap MultisigCarrier.Packet.lines
  | .error e => ["", "Class B packets: " ++ e.message]

/-- The lines on a message. -/
def messageLines (message : Message) : List String :=
  let header := match message.header? with
    | none => []
    | some header =>
      let name := match header.knownType? with
        | none => ""
        | some known => " (" ++ known.name ++ ")"
      ["Header:      version " ++ Decimal.natText header.version.toNat ++ " type " ++
        Decimal.natText header.messageType.toNat ++ name]
  ["Receiver:    " ++ message.receiver.getD "-",
   "Fee:         " ++ Decimal.intText message.fee.toInt ++ " sats",
   "Payload:     " ++ Hex.encode message.payload] ++ header

/-- The lines on the result of the parse. -/
def resultLines : ParseResult → List String
  | .ok (.message message) => messageLines message
  | .ok .notProtocol => ["Result:      no protocol payload"]
  | .error e => ["Result:      " ++ e.message]

/-- The lines of an inspection. -/
def lines (inspection : Inspection) : List String :=
  ["Transaction: " ++ inspection.txid.text,
   "Height:      " ++ Decimal.natText inspection.height.toNat,
   "Inputs:      " ++ Decimal.natText inspection.inputCount,
   "",
   "Outputs:"] ++
    inspection.outputs.map OutputView.line ++
    ["", "Decision:    " ++ inspection.decision.description] ++
    inspection.senderLines ++ inspection.packetLines ++ [""] ++ resultLines inspection.result

/-- The **text** of an inspection, each line ended. -/
def text (inspection : Inspection) : String :=
  String.join (inspection.lines.map fun line => line ++ "\n")

end Inspection

end OmniLayer
