import OmniLayer.Carrier.Decision
import OmniLayer.Error
import OmniLayer.Message.SimpleSend

/-! # Payloads in addresses

A simple send stands in the hash of a data address, behind a sequence byte. The receiver is the
output whose hash starts with the next sequence byte or, failing that, the one with the data
output's value. -/

namespace OmniLayer.AddressCarrier

/-- An output that may hold the data or name the receiver: **recognised**, with a single address,
and not the Exodus output. -/
structure Candidate where
  /-- Its place among the outputs. -/
  vout : Nat
  /-- Its hash. -/
  hash : Hash160
  /-- Its value. -/
  value : UInt64
  deriving DecidableEq, Repr

/-- The candidate that an output makes, if any. -/
def candidate? (params : Params) (active : Activation) (output : Output) (vout : Nat) :
    Option Candidate :=
  if output.scriptClass.isAllowed active then
    match Destination.ofClass? output.scriptClass with
    | none => none
    | some destination =>
      if params.exodusDestination? = some destination then none
      else some ⟨vout, destination.hash, output.value⟩
  else none

/-- The candidates among the outputs, in order. -/
def candidates (params : Params) (active : Activation) (outputs : List Output) :
    List Candidate :=
  outputs.zipIdx.filterMap fun (output, vout) => candidate? params active output vout

/-- Whether a hash **carries a simple send**: behind its first byte four zero bytes and the number
of a property. -/
def isDataHash (hash : Hash160) : Bool :=
  Bytes.toNatBE ((hash.bytes.drop 1).take 4) == 0 &&
    (Property.ofId? (Bytes.toNatBE ((hash.bytes.drop 5).take 4))).isSome

/-- The sequence byte of a hash. -/
def sequence (hash : Hash160) : UInt8 := hash.bytes.headD 0

/-- What is read from outputs: the payload and the places it was read from. -/
structure Reading where
  /-- The payload. -/
  payload : Bytes
  /-- The place of the data output. -/
  dataVout : Nat
  /-- The place of the receiver's output. -/
  referenceVout : Nat
  deriving DecidableEq, Repr

/-- The one data output among candidates. -/
def dataOutput (candidates : List Candidate) : Except ParseError Candidate :=
  match candidates.filter fun c => isDataHash c.hash with
  | [] => .error (.malformedPayload .noDataOutput)
  | [candidate] => .ok candidate
  | several => .error (.malformedPayload (.severalDataOutputs several.length))

/-- The receiver's output among the candidates besides the data output. -/
def reference (dataCandidate : Candidate) (others : List Candidate) :
    Except ParseError Candidate :=
  match others.filter fun c => sequence c.hash == sequence dataCandidate.hash + 1 with
  | [candidate] => .ok candidate
  | _ =>
    match others.filter fun c => c.value == dataCandidate.value with
    | [candidate] => .ok candidate
    | several => .error (.malformedPayload (.ambiguousReference several.length))

/-- What is read once the data output and the receiver's are found: the payload stands behind the
first byte of the hash, where it stops at the end of the hash at the latest. -/
def readingOf (params : Params) (data reference : Candidate) : Except ParseError Reading :=
  match wordSum? 1 params.addressPacketSize with
  | none => .error .overflow
  | some stop => .ok ⟨(data.hash.bytes.take stop).drop 1, data.vout, reference.vout⟩

/-- The payload is what the hash has of it. -/
@[simp] theorem readingOf_of_lt {params : Params} (h : 1 + params.addressPacketSize < wordCount)
    (data reference : Candidate) :
    readingOf params data reference
      = .ok ⟨(data.hash.bytes.drop 1).take params.addressPacketSize, data.vout,
          reference.vout⟩ := by
  rw [readingOf, wordSum?_of_lt h]
  dsimp only
  rw [List.drop_take, Nat.add_sub_cancel_left]

/-- Nothing is read if the place where the payload stops is no word. -/
@[simp] theorem readingOf_of_le {params : Params} (h : wordCount ≤ 1 + params.addressPacketSize)
    (data reference : Candidate) : readingOf params data reference = .error .overflow := by
  rw [readingOf, wordSum?_of_le h]

/-- **Reads** the payload from outputs. -/
def decode (params : Params) (active : Activation) (outputs : List Output) :
    Except ParseError Reading := do
  let candidates := candidates params active outputs
  let data ← dataOutput candidates
  let reference ← reference data (candidates.filter fun c => c.vout ≠ data.vout)
  readingOf params data reference

/-- The hash that carries a payload of at most nineteen bytes behind a sequence byte, filled up with
zeros. -/
def dataHash (sequence : UInt8) (payload : Bytes) : Hash160 :=
  ⟨(Bytes.padTo 20 (sequence :: payload)).take 20, by
    simp only [Bytes.padTo, List.length_take, List.length_append, List.length_replicate]
    omega⟩

/-- The outputs for destinations, each of the network's dust value. -/
def dustOutput (params : Params) (destination : Destination) : Output :=
  ⟨params.dustValue, destination.script⟩

/-- **Lays out** a simple send: the Exodus output, the data output and the receiver's output. -/
def encode (params : Params) (receiver : String) (payload : Bytes) :
    Except EncodeError (List Output) :=
  let max := min params.addressPacketSize 19
  if payload.length > max then .error (.payloadTooLarge payload.length max)
  else if SimpleSend.ofPayload? payload = none then .error (.unsupportedAddressPayload payload)
  else
    match params.decodeAddress? receiver with
    | none => .error (.invalidAddress receiver)
    | some receiver =>
      match params.exodusDestination? with
      | none => .error (.invalidAddress params.exodusAddress)
      | some exodus =>
        let data := Destination.pubkeyHash (dataHash (sequence receiver.hash - 1) payload)
        .ok ([exodus, data, receiver].map (dustOutput params))

end OmniLayer.AddressCarrier
