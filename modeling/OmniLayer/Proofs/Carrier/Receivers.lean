import OmniLayer.Proofs.Carrier.Reading
import OmniLayer.Proofs.Network

/-! # Which laid-out simple sends are read back

The encoder takes any receiver of the network, and the decoder tells the three outputs apart by what
they pay. So a laid-out simple send is read back, by itself, exactly when neither the receiver nor
the data output is Exodus and the receiver's hash carries no simple send (`decode_encode_iff`). -/

namespace OmniLayer.AddressCarrier

variable {params : Params} {active : Activation} {exodus receiver : Destination} {payload : Bytes}

/-- The destination of the data output that is laid out for a receiver. -/
def dataDestination (receiver : Destination) (payload : Bytes) : Destination :=
  .pubkeyHash (dataHash (sequence receiver.hash - 1) payload)

/-- The outputs that are laid out for a receiver. -/
def laidOut (params : Params) (exodus receiver : Destination) (payload : Bytes) : List Output :=
  [exodus, dataDestination receiver payload, receiver].map (dustOutput params)

/-- Whether the outputs laid out for a receiver can be **told apart** by what they pay. -/
structure ToldApart (params : Params) (receiver : Destination) (payload : Bytes) : Prop where
  /-- The receiver is not Exodus. -/
  receiver_ne : params.exodusDestination? ≠ some receiver
  /-- The data output does not pay Exodus. -/
  data_ne : params.exodusDestination? ≠ some (dataDestination receiver payload)
  /-- The receiver's hash carries no simple send. -/
  isDataHash_eq_false : isDataHash receiver.hash = false

/-- Every destination is recognised when script hashes are. -/
theorem isAllowed_script (hactive : active.scriptHash = true) (destination : Destination) :
    (Script.classify destination.script).isAllowed active = true := by
  cases destination with
  | pubkeyHash hash => rw [Destination.script, Script.classify_payToPubkeyHash]; rfl
  | scriptHash hash => rw [Destination.script, Script.classify_payToScriptHash]; exact hactive

/-- A candidate stands where its output does. -/
theorem vout_of_mem_candidate? {output : Output} {vout : Nat} {c : Candidate}
    (h : c ∈ (candidate? params active output vout).toList) : c.vout = vout := by
  obtain ⟨d, -, rfl⟩ := candidate?_eq_some.1 (Option.mem_toList.1 h)
  rfl

/-- The candidates among laid-out outputs are the data output and the receiver's, those of the two
that make one. -/
theorem candidates_laidOut (hexodus : params.exodusDestination? = some exodus) :
    candidates params active (laidOut params exodus receiver payload)
      = (candidate? params active (dustOutput params (dataDestination receiver payload)) 1).toList
        ++ (candidate? params active (dustOutput params receiver) 2).toList := by
  change candidatesFrom params active 0 _ = _
  rw [laidOut, List.map_cons, List.map_cons, List.map_cons, List.map_nil, candidatesFrom_cons,
    candidate?_exodus hexodus, Option.toList_none, List.nil_append, candidatesFrom_cons,
    candidatesFrom_cons]
  exact congrArg (_ ++ ·) (List.append_nil _)

/-- A simple send is laid out for every receiver of the network. -/
theorem encode_eq_laidOut {address : String} (hsize : params.addressPacketSize = 19)
    (hexodus : params.exodusDestination? = some exodus)
    (hreceiver : params.decodeAddress? address = some receiver)
    (hlength : payload.length ≤ 19) (hsend : SimpleSend.ofPayload? payload ≠ none) :
    encode params address payload = .ok (laidOut params exodus receiver payload) := by
  have hmax : ¬payload.length > min params.addressPacketSize 19 := by
    rw [hsize]
    omega
  unfold encode
  dsimp only
  rw [if_neg hmax, if_neg hsend, hreceiver, hexodus]
  rfl

/-- Laid-out outputs that are **told apart** are read back. -/
theorem decode_laidOut (hsize : params.addressPacketSize = 19)
    (hexodus : params.exodusDestination? = some exodus) (hactive : active.scriptHash = true)
    (hlength : payload.length ≤ 19) (hsend : SimpleSend.ofPayload? payload ≠ none)
    (h : ToldApart params receiver payload) :
    decode params active (laidOut params exodus receiver payload)
      = .ok ⟨Bytes.padTo 19 payload, 1, 2⟩ := by
  have hsequence : sequence receiver.hash
      = sequence (dataDestination receiver payload).hash + 1 := by
    change _ = sequence (dataHash (sequence receiver.hash - 1) payload) + 1
    rw [sequence_dataHash _ hlength, UInt8.sub_add_cancel]
  -- There are no other outputs that the two could be taken for.
  have hothers {p : Output → Prop} : ∀ o ∈ ([] ++ [] : List Output), p o :=
    fun o ho => absurd ho List.not_mem_nil
  calc decode params active (laidOut params exodus receiver payload)
      = decode params active ([] ++ laidOut params exodus receiver payload ++ []) := by
        rw [List.nil_append, List.append_nil]
    _ = .ok ⟨((dataDestination receiver payload).hash.bytes.drop 1).take params.addressPacketSize,
          1, 2⟩ :=
        decode_append_dustOutputs (by rw [hsize]; decide) hexodus
          (names_dustOutput (isAllowed_script hactive _) h.data_ne)
          (names_dustOutput (isAllowed_script hactive _) h.receiver_ne)
          (isDataHash_dataHash _ hlength hsend) h.isDataHash_eq_false hsequence hothers
          (Or.inl hothers)
    _ = .ok ⟨Bytes.padTo 19 payload, 1, 2⟩ := by
        rw [hsize]
        exact congrArg (fun bs => Except.ok (Reading.mk bs 1 2)) (payload_dataHash _ hlength)

/-- Laid-out outputs that are read, in whatever way, are **told apart**. -/
theorem toldApart_of_decode_eq_ok {reading : Reading}
    (hexodus : params.exodusDestination? = some exodus) (hactive : active.scriptHash = true)
    (hlength : payload.length ≤ 19) (hsend : SimpleSend.ofPayload? payload ≠ none)
    (h : decode params active (laidOut params exodus receiver payload) = .ok reading) :
    ToldApart params receiver payload := by
  obtain ⟨data, reference, hdata, hreference, hne, -, -⟩ := exists_of_decode_eq_ok h
  have hmem : data ∈ candidates params active (laidOut params exodus receiver payload) :=
    List.mem_of_mem_filter (hdata ▸ List.mem_singleton_self data)
  rw [candidates_laidOut hexodus] at hdata hreference hmem
  -- A reading takes two outputs, so both that may be candidates are.
  have hreceiver : params.exodusDestination? ≠ some receiver := by
    intro heq
    rw [candidate?_exodus heq, Option.toList_none, List.append_nil] at hreference hmem
    exact hne ((vout_of_mem_candidate? hreference).trans (vout_of_mem_candidate? hmem).symm)
  have hdataNe : params.exodusDestination? ≠ some (dataDestination receiver payload) := by
    intro heq
    rw [candidate?_exodus heq, Option.toList_none, List.nil_append] at hreference hmem
    exact hne ((vout_of_mem_candidate? hreference).trans (vout_of_mem_candidate? hmem).symm)
  refine ⟨hreceiver, hdataNe, Bool.eq_false_iff.2 fun hhash => ?_⟩
  -- If the receiver's hash carried a simple send too, there would be two data outputs.
  have hdataHash : isDataHash (dataDestination receiver payload).hash = true :=
    isDataHash_dataHash _ hlength hsend
  rw [candidate?_eq_some.2 ⟨_, names_dustOutput (isAllowed_script hactive _) hdataNe, rfl⟩,
    candidate?_eq_some.2 ⟨_, names_dustOutput (isAllowed_script hactive _) hreceiver, rfl⟩,
    Option.toList_some, Option.toList_some, List.singleton_append] at hdata
  simp [hdataHash, hhash] at hdata

/-- A simple send to **Exodus itself** is refused: no output is left to be the reference. -/
theorem decode_laidOut_exodus (hexodus : params.exodusDestination? = some exodus)
    (hdata : params.exodusDestination? ≠ some (dataDestination exodus payload))
    (hactive : active.scriptHash = true) (hlength : payload.length ≤ 19)
    (hsend : SimpleSend.ofPayload? payload ≠ none) :
    decode params active (laidOut params exodus exodus payload)
      = .error (.malformedPayload (.ambiguousReference 0)) := by
  set data : Candidate := ⟨1, (dataDestination exodus payload).hash, params.dustValue⟩
  have hcandidates : candidates params active (laidOut params exodus exodus payload) = [data] := by
    rw [candidates_laidOut hexodus, candidate?_exodus hexodus, Option.toList_none, List.append_nil,
      candidate?_eq_some.2 ⟨_, names_dustOutput (isAllowed_script hactive _) hdata, rfl⟩]
    rfl
  have hdataHash : isDataHash data.hash = true := isDataHash_dataHash _ hlength hsend
  have hdataOutput : dataOutput [data] = .ok data :=
    dataOutput_eq_ok_iff.2 (by simp [hdataHash])
  rw [decode, hcandidates, hdataOutput]
  -- The data output does not stand beside itself, so nothing is found in either search.
  rfl

/-- **A laid-out simple send is read back**, by itself, exactly when its outputs can be told apart
by what they pay; if they cannot, they are refused. -/
theorem decode_encode_iff {settings : NetworkSettings} {params : Params} {address : String}
    {payload : Bytes} {outs : List Output} {height : UInt32}
    (hparams : settings.params = .ok params)
    (hencode : encode params address payload = .ok outs)
    (hheight : params.activation.scriptHashHeight ≤ height) :
    ∃ receiver, params.decodeAddress? address = some receiver ∧
      (decode params (params.activation.activeAt height) outs
          = .ok ⟨Bytes.padTo 19 payload, 1, 2⟩ ↔ ToldApart params receiver payload) ∧
      (¬ToldApart params receiver payload →
        ∃ e, decode params (params.activation.activeAt height) outs = .error e ∧
          IsUnreadable e) := by
  obtain ⟨receiver, exodus, hreceiver, hexodus, hlength, hsend, rfl⟩ :=
    exists_of_encode_eq_ok hencode
  have hactive : (params.activation.activeAt height).scriptHash = true := decide_eq_true hheight
  refine ⟨receiver, hreceiver, ⟨?_, ?_⟩, fun hapart => ?_⟩
  · exact toldApart_of_decode_eq_ok hexodus hactive hlength hsend
  · exact decode_laidOut (NetworkSettings.isUsable_of_params hparams).addressPacketSize_eq hexodus
      hactive hlength hsend
  · have hsize := (NetworkSettings.isUsable_of_params hparams).addressPacketSize_lt
    refine (failsOnly_decode_of_lt hsize _ _).exists_eq_error ?_
    rintro ⟨reading, hreading⟩
    exact hapart (toldApart_of_decode_eq_ok hexodus hactive hlength hsend hreading)

/-- One unit for the receiver whose first byte is zero is read back by itself. -/
theorem decode_encode_iff_wrapped :
    encode Params.bitcoin "31h1vYVSYuKP6AhS86fbRdMw9XHieotbST" oneUnit = .ok wrappedOutputs ∧
      decode Params.bitcoin (Params.bitcoin.activation.activeAt 322000) wrappedOutputs
        = .ok ⟨Bytes.padTo 19 oneUnit, 1, 2⟩ := by
  have hdestination : Params.bitcoin.decodeAddress? "31h1vYVSYuKP6AhS86fbRdMw9XHieotbST"
      = some wrappedReceiver := by
    decide +kernel
  have hlaidOut : laidOut Params.bitcoin (.pubkeyHash Params.mainExodus) wrappedReceiver oneUnit
      = wrappedOutputs := by
    decide
  have hencode : encode Params.bitcoin "31h1vYVSYuKP6AhS86fbRdMw9XHieotbST" oneUnit
      = .ok wrappedOutputs := by
    rw [encode_eq_laidOut rfl Params.exodusDestination?_bitcoin hdestination (by decide)
      (by decide), hlaidOut]
  have hheight : Params.bitcoin.activation.scriptHashHeight ≤ 322000 := by decide
  obtain ⟨receiver, hreceiver, hiff, -⟩ :=
    decode_encode_iff NetworkSettings.params_default hencode hheight
  obtain rfl : wrappedReceiver = receiver := Option.some.inj (hdestination.symm.trans hreceiver)
  refine ⟨hencode, hiff.2 ⟨?_, ?_, by decide⟩⟩ <;> rw [Params.exodusDestination?_bitcoin] <;> decide

/-- The outputs that carry one unit to Exodus itself. -/
def exodusOutputs : List Output :=
  laidOut Params.bitcoin (.pubkeyHash Params.mainExodus) (.pubkeyHash Params.mainExodus) oneUnit

/-- A simple send to Exodus itself is laid out on the main network, and is not read back: no output
is left to be the reference. -/
theorem decode_encode_exodus :
    ({} : NetworkSettings).params = .ok Params.bitcoin ∧
      Params.bitcoin.exodusDestination? = some (.pubkeyHash Params.mainExodus) ∧
      encode Params.bitcoin "1EXoDusjGwvnjZUyKkxZ4UHEf77z6A5S4P" oneUnit = .ok exodusOutputs ∧
      decode Params.bitcoin (Params.bitcoin.activation.activeAt 400000) exodusOutputs
        = .error (.malformedPayload (.ambiguousReference 0)) := by
  have hexodus := Params.exodusDestination?_bitcoin
  have hdata : Params.bitcoin.exodusDestination?
      ≠ some (dataDestination (.pubkeyHash Params.mainExodus) oneUnit) := by
    rw [hexodus]
    decide
  exact ⟨NetworkSettings.params_default, hexodus,
    encode_eq_laidOut rfl hexodus hexodus (by decide) (by decide),
    decode_laidOut_exodus hexodus hdata (by decide) (by decide) (by decide)⟩

end OmniLayer.AddressCarrier
