import OmniLayer.Carrier.Decision
import OmniLayer.Chunks
import OmniLayer.Error

/-! # Payloads in null data

Every recognised null-data output whose first push starts with the marker adds to the payload, in
output order: the first push without the marker, then the other pushes as they are. -/

namespace OmniLayer.NullDataCarrier

/-- What an output **adds to the payload**, if it is recognised and tagged. -/
def body? (params : Params) (active : Activation) (output : Output) : Option Bytes :=
  match output.scriptClass with
  | .nullData (first :: rest) =>
    if active.nullData ∧ hasMarker params.marker.bytes (first :: rest) then
      some (first.drop params.marker.bytes.length ++ rest.flatten)
    else none
  | _ => none

/-- **Reads** the payload from outputs, up to the bound on payloads. -/
def decode (params : Params) (active : Activation) (outputs : List Output) :
    Except ParseError Bytes :=
  match outputs.filterMap (body? params active) with
  | [] => .error (.malformedPayload .noMarker)
  | bodies =>
    match params.maxPayloadSize? with
    | none => .error .overflow
    | some max => .ok (bodies.flatten.take max)

/-- The null-data output for a piece of payload, unless it is too long for a push. -/
def taggedOutput (params : Params) (piece : Bytes) : Except EncodeError Output :=
  let data := params.marker.bytes ++ piece
  if data.length ≤ Script.maxPush then .ok ⟨0, Script.opReturn :: Script.push data⟩
  else .error (.payloadTooLarge data.length params.maxPushSize)

/-- The pieces of a payload; an empty payload still has one. -/
def pieces (size : Nat) (payload : Bytes) : List Bytes :=
  if payload.isEmpty then [[]] else chunks size payload

/-- The output that pays a receiver, if one is given. -/
def receiverOutput (params : Params) : Option String → Except EncodeError (List Output)
  | none => .ok []
  | some address =>
    match params.scriptForAddress? address with
    | none => .error (.invalidAddress address)
    | some script => .ok [⟨params.dustValue, script⟩]

/-- **Lays out** a payload as null-data outputs, each with the marker in front, and an optional
output for the receiver. -/
def encode (params : Params) (receiver : Option String) (payload : Bytes) :
    Except EncodeError (List Output) :=
  let markerSize := params.marker.bytes.length
  match params.maxPayloadSize? with
  | none => .error .overflow
  | some max =>
    if payload.length > max then .error (.payloadTooLarge payload.length max)
    else do
      let receiverOutputs ← receiverOutput params receiver
      if params.maxPushSize ≤ markerSize then
        throw (.payloadTooLarge (markerSize + 1) params.maxPushSize)
      else
        let outputs ← (pieces (params.maxPushSize - markerSize) payload).mapM (taggedOutput params)
        return outputs ++ receiverOutputs

end OmniLayer.NullDataCarrier
