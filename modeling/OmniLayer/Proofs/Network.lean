import Mathlib.Tactic.SplitIfs
import OmniLayer.Proofs.Destination
import OmniLayer.Proofs.Traversal

/-! # Accepted network settings

Settings are accepted when they are a preset with overrides (`params_eq_ok_iff`) whose sizes are
within their bounds and whose Exodus address reads as a destination (`check_eq_ok_iff`), so all
parameters that come out are usable (`isUsable_of_params`).
The checks do not compare version bytes. Whether the two tests for the Exodus output agree depends
on these (`isExodus_iff_destination?`): one test compares address texts and the other destinations,
and an address can be read under a version byte with which none is written. -/

namespace OmniLayer

namespace Params

variable {params : Params}

/-! ## Usable parameters -/

/-- The checks pass when the sizes are within their **bounds** and the Exodus address is one of the
network. -/
theorem check_eq_ok_iff :
    params.check = .ok () ↔
      (2 ≤ params.packetSize ∧ params.packetSize ≤ 31) ∧ 0 < params.maxPackets ∧
        4 < params.maxPushSize ∧ ∃ exodus, params.exodusDestination? = some exodus := by
  rw [← Option.ne_none_iff_exists']
  unfold check
  -- Each refusal is the failure of one bound, in the order in which they are checked.
  split_ifs with hpacket hmax hpush hexodus
  · exact iff_of_false id fun h => by omega
  · exact iff_of_false id fun h => by omega
  · exact iff_of_false id fun h => by omega
  · exact iff_of_false id fun h => h.2.2.2 hexodus
  · exact ⟨fun _ => ⟨by omega, by omega, by omega, hexodus⟩, fun _ => rfl⟩

/-- **Usable** parameters: a packet fits in a key and holds more than its sequence byte, a push
holds more than the marker, a data address holds nineteen bytes, and the Exodus address is one of
the network. -/
structure IsUsable (params : Params) : Prop where
  /-- A packet holds a byte behind its sequence byte. -/
  two_le_packetSize : 2 ≤ params.packetSize
  /-- A packet fits in a compressed key, between the header byte and the closing byte. -/
  packetSize_le : params.packetSize ≤ 31
  /-- A transaction may hold packets. -/
  maxPackets_pos : 0 < params.maxPackets
  /-- A push holds a byte behind the marker. -/
  lt_maxPushSize : 4 < params.maxPushSize
  /-- A data address holds the rest of its hash. -/
  addressPacketSize_eq : params.addressPacketSize = 19
  /-- The Exodus address reads as a destination. -/
  exists_exodus : ∃ exodus, params.exodusDestination? = some exodus

/-- A word can count where the payload of a data address ends. -/
theorem IsUsable.addressPacketSize_lt (h : params.IsUsable) :
    1 + params.addressPacketSize < wordCount := by
  rw [h.addressPacketSize_eq]
  decide

/-- Every preset has data addresses of nineteen bytes. -/
theorem addressPacketSize_of_ofPreset? {name : String} (h : ofPreset? name = some params) :
    params.addressPacketSize = 19 := by
  unfold ofPreset? at h
  dsimp only at h
  split_ifs at h <;> cases h <;> rfl

/-- Every preset passes the **checks**. -/
theorem check_of_ofPreset? {name : String} (h : ofPreset? name = some params) :
    params.check = .ok () := by
  have hbitcoin : bitcoin.check = .ok () :=
    check_eq_ok_iff.2 ⟨by decide, by decide, by decide, _, exodusDestination?_bitcoin⟩
  have htestnet : testnet.check = .ok () := by decide +kernel
  unfold ofPreset? at h
  dsimp only at h
  split_ifs at h with hmain htest hprivate
  · cases h
    exact hbitcoin
  · cases h
    exact htestnet
  · -- A private network has the parameters of the public test network.
    cases h
    exact htestnet

end Params

namespace NetworkSettings

variable {settings : NetworkSettings} {params : Params}

/-- Accepted settings are a preset with a marker and overrides that passes the **checks**. -/
theorem params_eq_ok_iff :
    settings.params = .ok params ↔
      ∃ preset marker, Params.ofPreset? settings.preset = some preset ∧
        settings.markerOr preset.marker = .ok marker ∧
        params = settings.override { preset with marker := marker } ∧ params.check = .ok () := by
  constructor
  · intro h
    unfold NetworkSettings.params at h
    split at h
    · cases h
    · next preset hpreset =>
      obtain ⟨marker, hmarker, h⟩ := bind_eq_ok_iff.1 h
      obtain ⟨_, hcheck, h⟩ := bind_eq_ok_iff.1 h
      cases h
      exact ⟨preset, marker, hpreset, hmarker, rfl, hcheck⟩
  · rintro ⟨preset, marker, hpreset, hmarker, rfl, hcheck⟩
    unfold NetworkSettings.params
    rw [hpreset]
    exact bind_eq_ok_iff.2 ⟨marker, hmarker, bind_eq_ok_iff.2 ⟨(), hcheck, rfl⟩⟩

/-- Parameters of **accepted settings** are usable. -/
theorem isUsable_of_params (h : settings.params = .ok params) : params.IsUsable := by
  obtain ⟨preset, marker, hpreset, -, hparams, hcheck⟩ := params_eq_ok_iff.1 h
  obtain ⟨⟨htwo, hle⟩, hmax, hpush, hexodus⟩ := Params.check_eq_ok_iff.1 hcheck
  have hsize : params.addressPacketSize = preset.addressPacketSize := hparams ▸ rfl
  exact ⟨htwo, hle, hmax, hpush, hsize.trans (Params.addressPacketSize_of_ofPreset? hpreset),
    hexodus⟩

/-- Settings that say nothing but a preset are accepted, and stand for **the preset itself**. -/
theorem params_preset {name : String} (h : Params.ofPreset? name = some params) :
    ({ preset := name } : NetworkSettings).params = .ok params := by
  have hcheck : params.check = .ok () := Params.check_of_ofPreset? h
  exact params_eq_ok_iff.2 ⟨params, params.marker, h, rfl, rfl, hcheck⟩

/-- Settings that say nothing at all stand for the main network. -/
theorem params_default : ({} : NetworkSettings).params = .ok Params.bitcoin :=
  params_preset (by decide)

/-- Packets of the main network may have any size that fits in a key, and there may be **any
number** of them but none. -/
theorem params_of_packets (packetSize maxPackets : Option UInt64)
    (hsize : 2 ≤ (packetSize.map UInt64.toNat).getD 31 ∧
      (packetSize.map UInt64.toNat).getD 31 ≤ 31)
    (hmax : 0 < (maxPackets.map UInt64.toNat).getD 255) :
    ({ packetSize := packetSize, maxPackets := maxPackets } : NetworkSettings).params
      = .ok { Params.bitcoin with
          packetSize := (packetSize.map UInt64.toNat).getD 31
          maxPackets := (maxPackets.map UInt64.toNat).getD 255 } := by
  have hpreset : Params.ofPreset? "bitcoin" = some .bitcoin := by decide
  have hpush : 4 < Params.bitcoin.maxPushSize := by decide
  exact params_eq_ok_iff.2 ⟨.bitcoin, Params.bitcoin.marker, hpreset, rfl, rfl,
    Params.check_eq_ok_iff.2 ⟨hsize, hmax, hpush, _, Params.exodusDestination?_bitcoin⟩⟩

/-- Settings with so many packets that no word can count the bytes. -/
def overlong : NetworkSettings :=
  { packetSize := some 16, maxPackets := some 0x1000000000000000 }

/-- Such settings are **accepted**: the checks put no bound on the number of packets. -/
theorem params_overlong : overlong.params = .ok Params.overlong :=
  params_of_packets (some 16) (some 0x1000000000000000) (by decide) (by decide)

/-! ## Two tests for the Exodus output -/

/-- **The two tests for the Exodus output**, by address text and by destination, agree on all
scripts exactly when key hashes and script hashes have different version bytes and the Exodus
address is the canonical one of its destination. On payments to a key hash they always agree. -/
theorem isExodus_iff_destination? (h : settings.params = .ok params) :
    ∃ exodus, params.exodusDestination? = some exodus ∧
      ((∀ script : Script, params.isExodus script = true ↔
            Script.destination? script = params.exodusDestination?) ↔
          params.addressVersions.pubkeyHash ≠ params.addressVersions.scriptHash ∧
            exodus.toAddress params.addressVersions = params.exodusAddress) ∧
      ∀ hash : Hash160, params.isExodus (Script.payToPubkeyHash hash) = true ↔
        Script.destination? (Script.payToPubkeyHash hash) = params.exodusDestination? := by
  obtain ⟨exodus, hexodus⟩ := (isUsable_of_params h).exists_exodus
  refine ⟨exodus, hexodus, ⟨fun hagree => ?_, fun ⟨hne, hcanonical⟩ script => ?_⟩, fun hash => ?_⟩
  · -- Read for the script that pays a destination, agreement leaves no other with that text.
    have hdest (d : Destination) :
        d.toAddress params.addressVersions = params.exodusAddress ↔ d = exodus := by
      rw [← Params.isExodus_script_iff, hagree, hexodus, Script.destination?_script,
        Option.some_inj]
    have hcanonical := (hdest exodus).2 rfl
    refine ⟨fun heq => ?_, hcanonical⟩
    cases exodus with
    | pubkeyHash hash =>
      have hother := Destination.toAddress_scriptHash heq hash
      exact Destination.noConfusion ((hdest _).1 (hother.trans hcanonical))
    | scriptHash hash =>
      have hother := Destination.toAddress_scriptHash heq hash
      exact Destination.noConfusion ((hdest _).1 (hother.symm.trans hcanonical))
  · rw [Params.isExodus, beq_iff_eq, Params.addressOf?_eq_some_iff, hexodus,
      Script.destination?_eq_some_iff, ← hcanonical]
    constructor
    · rintro ⟨d, rfl, hd⟩
      rw [Destination.toAddress_injective hne hd]
    · rintro rfl
      exact ⟨exodus, rfl, rfl⟩
  · have hpays : Script.destination? (Script.payToPubkeyHash hash) = some (.pubkeyHash hash) :=
      Script.destination?_script (.pubkeyHash hash)
    rw [Params.isExodus_payToPubkeyHash_iff, hpays, eq_comm]

/-- Settings under which script hashes are written with one version byte and read with two, and
whose Exodus address is that of a script hash. -/
def scriptHashExodus : NetworkSettings where
  scriptHashVersion := some 0xc4
  legacyScriptHashVersions := some [0x05]
  exodusAddress := some "2MsFDzHRUAMpjHxKyoEHU3aMCMsVtMqs1PV"

/-- The two tests agree under these settings: the Exodus address is written with the primary
version byte. -/
theorem isExodus_iff_destination?_scriptHashExodus :
    ∃ params, scriptHashExodus.params = .ok params ∧
      params.exodusDestination? = some (.scriptHash (FixedBytes.zero 20)) ∧
      ∀ script : Script, params.isExodus script = true ↔
        Script.destination? script = params.exodusDestination? := by
  set params : Params :=
    { Params.bitcoin with
      exodusAddress := "2MsFDzHRUAMpjHxKyoEHU3aMCMsVtMqs1PV"
      addressVersions := ⟨0x00, 0xc4, [0x05]⟩ } with hparams
  have hcanonical : (Destination.scriptHash (FixedBytes.zero 20)).toAddress params.addressVersions
      = params.exodusAddress := by
    decide +kernel
  have hexodus : params.exodusDestination? = some (.scriptHash (FixedBytes.zero 20)) := by
    rw [Params.exodusDestination?, ← hcanonical]
    exact Destination.ofAddress?_toAddress_self (by decide) _
  have hcheck : params.check = .ok () :=
    Params.check_eq_ok_iff.2 ⟨by decide, by decide, by decide, _, hexodus⟩
  have hsettings : scriptHashExodus.params = .ok params :=
    params_eq_ok_iff.2 ⟨.bitcoin, Params.bitcoin.marker, by decide, rfl, rfl, hcheck⟩
  obtain ⟨exodus, he, hiff, -⟩ := isExodus_iff_destination? hsettings
  obtain rfl : .scriptHash (FixedBytes.zero 20) = exodus := Option.some.inj (hexodus.symm.trans he)
  exact ⟨params, hsettings, hexodus, hiff.2 ⟨by decide, hcanonical⟩⟩

/-- The same settings with the Exodus address written with the other version byte. -/
def legacyExodus : NetworkSettings :=
  { scriptHashExodus with exodusAddress := some "31h1vYVSYuKP6AhS86fbRdMw9XHieotbST" }

/-- These settings are accepted, and the script that pays the destination of the Exodus address is
not recognised by its text. -/
theorem not_isExodus_legacyExodus :
    ∃ params, legacyExodus.params = .ok params ∧
      Script.destination? (Script.payToScriptHash (FixedBytes.zero 20))
        = params.exodusDestination? ∧
      params.isExodus (Script.payToScriptHash (FixedBytes.zero 20)) = false := by
  set params : Params :=
    { Params.bitcoin with
      exodusAddress := "31h1vYVSYuKP6AhS86fbRdMw9XHieotbST"
      addressVersions := ⟨0x00, 0xc4, [0x05]⟩ }
  have hexodus : params.exodusDestination? = some (.scriptHash (FixedBytes.zero 20)) := by
    decide +kernel
  have hcheck : params.check = .ok () :=
    Params.check_eq_ok_iff.2 ⟨by decide, by decide, by decide, _, hexodus⟩
  have htext : params.isExodus (Script.payToScriptHash (FixedBytes.zero 20)) = false := by
    decide +kernel
  have hpays := Script.destination?_script (.scriptHash (FixedBytes.zero 20))
  exact ⟨params, params_eq_ok_iff.2 ⟨.bitcoin, Params.bitcoin.marker, by decide, rfl, rfl, hcheck⟩,
    hpays.trans hexodus.symm, htext⟩

end NetworkSettings

end OmniLayer
