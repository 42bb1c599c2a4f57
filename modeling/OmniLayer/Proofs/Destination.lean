import OmniLayer.Network
import OmniLayer.Proofs.Script.Templates
import OmniLayer.Proofs.Text.Base58

/-! # Addresses, destinations and the Exodus output

A text is the address of a destination when it spells the destination's version byte and hash
(`toAddress_eq_iff`), and reading it looks at the version byte only (`ofVersion?_eq_some_iff`). So
an address leads back to its destination unless key hashes and script hashes share a version byte
(`toAddress_identifies_iff`), and an address read under a primary version byte is the canonical one
of its destination. A payment to a key hash is recognised by its text as paying Exodus exactly when
it pays the destination of the Exodus address (`isExodus_payToPubkeyHash_iff`). -/

namespace OmniLayer

/-! ## Reading addresses -/

namespace Destination

variable {versions : AddressVersions} {version : UInt8} {hash : Hash160} {address : String}
  {d d' : Destination}

/-- The primary version of script hashes is one of their versions. -/
@[simp] theorem isScriptHash_scriptHash (versions : AddressVersions) :
    versions.isScriptHash versions.scriptHash = true := by
  rw [AddressVersions.isScriptHash, beq_self_eq_true, Bool.true_or]

/-- A version byte reads as that of **key hashes first**, and otherwise as one of script hashes. -/
theorem ofVersion?_eq_some_iff :
    ofVersion? versions version hash = some d ↔
      (version = versions.pubkeyHash ∧ d = .pubkeyHash hash) ∨
        (version ≠ versions.pubkeyHash ∧ versions.isScriptHash version = true ∧
          d = .scriptHash hash) := by
  unfold ofVersion?
  by_cases hkey : version = versions.pubkeyHash
  · rw [if_pos hkey, Option.some_inj]
    constructor
    · rintro rfl
      exact Or.inl ⟨hkey, rfl⟩
    · rintro (⟨-, rfl⟩ | ⟨hne, -⟩)
      · rfl
      · exact absurd hkey hne
  · rw [if_neg hkey]
    constructor
    · intro h
      by_cases hscript : versions.isScriptHash version = true
      · rw [if_pos hscript, Option.some_inj] at h
        exact Or.inr ⟨hkey, hscript, h.symm⟩
      · rw [if_neg hscript] at h
        cases h
    · rintro (⟨heq, -⟩ | ⟨-, hscript, rfl⟩)
      · exact absurd heq hkey
      · rw [if_pos hscript]

/-- An address reads as a destination when it spells a version byte and a hash that do. -/
theorem ofAddress?_eq_some_iff :
    ofAddress? versions address = some d ↔
      ∃ version hash, Base58.decodeCheck? address = some (version :: FixedBytes.bytes hash) ∧
        ofVersion? versions version hash = some d := by
  rw [ofAddress?, Option.bind_eq_bind, Option.bind_eq_some_iff]
  constructor
  · rintro ⟨payload, hpayload, h⟩
    cases payload with
    | nil => cases h
    | cons version body =>
      obtain ⟨hash, hbody, hversion⟩ := Option.bind_eq_some_iff.1 h
      rw [FixedBytes.ofBytes?_eq_some.1 hbody] at hpayload
      exact ⟨version, hash, hpayload, hversion⟩
  · rintro ⟨version, hash, hpayload, hversion⟩
    refine ⟨_, hpayload, ?_⟩
    dsimp only
    rw [FixedBytes.ofBytes?_bytes]
    exact hversion

/-- A text is the **address of a destination** when it spells the destination's version byte and
hash. -/
theorem toAddress_eq_iff (h : Base58.decodeCheck? address = some (version :: hash.bytes)) :
    d.toAddress versions = address ↔ d.version versions = version ∧ d.hash = hash := by
  unfold toAddress
  constructor
  · rintro rfl
    rw [Base58.decodeCheck?_encodeCheck, Option.some_inj, List.cons.injEq] at h
    exact ⟨h.1, FixedBytes.ext h.2⟩
  · rintro ⟨rfl, rfl⟩
    exact Base58.encodeCheck_of_decodeCheck? h

/-- What an address spells is the version byte and the hash of its destination. -/
@[simp] theorem decodeCheck?_toAddress (versions : AddressVersions) (d : Destination) :
    Base58.decodeCheck? (d.toAddress versions) = some (d.version versions :: d.hash.bytes) :=
  Base58.decodeCheck?_encodeCheck _

/-- An address reads as its destination's version byte and hash do. -/
theorem ofAddress?_toAddress (versions : AddressVersions) (d : Destination) :
    ofAddress? versions (d.toAddress versions)
      = ofVersion? versions (d.version versions) d.hash := by
  refine Option.ext fun d' => ?_
  rw [ofAddress?_eq_some_iff, decodeCheck?_toAddress]
  constructor
  · rintro ⟨version, hash, h, hd'⟩
    rw [Option.some_inj, List.cons.injEq] at h
    obtain rfl := h.1
    obtain rfl := FixedBytes.ext h.2
    exact hd'
  · exact fun hd' => ⟨_, _, rfl, hd'⟩

/-- When key hashes and script hashes have different versions, an address **reads as its
destination**. -/
theorem ofAddress?_toAddress_self (hne : versions.pubkeyHash ≠ versions.scriptHash)
    (d : Destination) : ofAddress? versions (d.toAddress versions) = some d := by
  rw [ofAddress?_toAddress, ofVersion?_eq_some_iff]
  cases d with
  | pubkeyHash hash => exact Or.inl ⟨rfl, rfl⟩
  | scriptHash hash => exact Or.inr ⟨hne.symm, isScriptHash_scriptHash versions, rfl⟩

/-- Then the address of a destination is that of no other. -/
theorem toAddress_injective (hne : versions.pubkeyHash ≠ versions.scriptHash) :
    Function.Injective (toAddress versions) := by
  intro d d' h
  have hread := ofAddress?_toAddress_self hne d
  rw [h, ofAddress?_toAddress_self hne d'] at hread
  exact (Option.some.inj hread).symm

/-- A key hash and a script hash of one version byte have one address. -/
theorem toAddress_scriptHash (heq : versions.pubkeyHash = versions.scriptHash) (hash : Hash160) :
    (scriptHash hash).toAddress versions = (pubkeyHash hash).toAddress versions :=
  (toAddress_eq_iff (decodeCheck?_toAddress versions (pubkeyHash hash))).2 ⟨heq.symm, rfl⟩

/-- An address that reads under a **primary version byte** is that of its destination. -/
theorem toAddress_of_ofAddress? {body : Bytes}
    (hpayload : Base58.decodeCheck? address = some (version :: body))
    (hversion : version = versions.pubkeyHash ∨ version = versions.scriptHash)
    (h : ofAddress? versions address = some d) : d.toAddress versions = address := by
  obtain ⟨version', hash, hpayload', hread⟩ := ofAddress?_eq_some_iff.1 h
  obtain ⟨rfl, rfl⟩ : version = version' ∧ body = hash.bytes := by
    rw [hpayload', Option.some_inj, List.cons.injEq] at hpayload
    exact ⟨hpayload.1.symm, hpayload.2.symm⟩
  rw [toAddress_eq_iff hpayload]
  rcases ofVersion?_eq_some_iff.1 hread with ⟨hkey, rfl⟩ | ⟨hne, -, rfl⟩
  · exact ⟨hkey.symm, rfl⟩
  · exact ⟨(hversion.resolve_left hne).symm, rfl⟩

end Destination

namespace Params

variable {params : Params}

/-! ## Addresses of scripts -/

/-- The script that pays a destination has the destination's canonical address. -/
@[simp] theorem addressOf?_script (params : Params) (destination : Destination) :
    params.addressOf? destination.script
      = some (destination.toAddress params.addressVersions) := by
  rw [addressOf?, Script.destination?_script, Option.map_some]

/-- A script has the address of the destination that it pays. -/
theorem addressOf?_eq_some_iff {script : Script} {address : String} :
    params.addressOf? script = some address ↔
      ∃ d : Destination, script = d.script ∧ d.toAddress params.addressVersions = address := by
  rw [addressOf?, Option.map_eq_some_iff]
  exact exists_congr fun d => and_congr_left fun _ => Script.destination?_eq_some_iff

/-- **Addresses identify destinations** exactly when key hashes and script hashes have different
version bytes: then an address reads as the destination it was written for, and scripts with one
address are one script. Under any version bytes, an address that reads under a primary version byte
is the canonical one of its destination. -/
theorem toAddress_identifies_iff (params : Params) :
    ((∀ d : Destination, params.decodeAddress? (d.toAddress params.addressVersions) = some d) ↔
        params.addressVersions.pubkeyHash ≠ params.addressVersions.scriptHash) ∧
      ((∀ (script script' : Script) (address : String), params.addressOf? script = some address →
          params.addressOf? script' = some address → script = script') ↔
        params.addressVersions.pubkeyHash ≠ params.addressVersions.scriptHash) ∧
      ∀ (address : String) (version : UInt8) (body : Bytes) (d : Destination),
        Base58.decodeCheck? address = some (version :: body) →
        version = params.addressVersions.pubkeyHash ∨
          version = params.addressVersions.scriptHash →
        params.decodeAddress? address = some d →
        d.toAddress params.addressVersions = address := by
  -- Under one version byte, the two destinations of the zero hash have one address.
  have hcollide (heq : params.addressVersions.pubkeyHash = params.addressVersions.scriptHash) :=
    Destination.toAddress_scriptHash heq (FixedBytes.zero 20)
  refine ⟨⟨fun h heq => ?_, Destination.ofAddress?_toAddress_self⟩, ⟨fun h heq => ?_, ?_⟩,
    fun address version body d => Destination.toAddress_of_ofAddress?⟩
  · have hscript := h (.scriptHash (FixedBytes.zero 20))
    rw [hcollide heq, h] at hscript
    cases hscript
  · have hscripts := h (Destination.script (.scriptHash (FixedBytes.zero 20)))
      (Destination.script (.pubkeyHash (FixedBytes.zero 20))) _ (addressOf?_script params _)
      ((addressOf?_script params _).trans (congrArg some (hcollide heq).symm))
    exact absurd hscripts (by decide)
  · intro hne script script' address hscript hscript'
    obtain ⟨d, rfl, hd⟩ := addressOf?_eq_some_iff.1 hscript
    obtain ⟨d', rfl, hd'⟩ := addressOf?_eq_some_iff.1 hscript'
    rw [Destination.toAddress_injective hne (hd.trans hd'.symm)]

/-- Settings under which script hashes are written with the version byte of key hashes. -/
def sharedVersion : NetworkSettings := { scriptHashVersion := some 0 }

/-- These settings are accepted, and yet the address of a script hash reads as that of a key
hash. -/
theorem decodeAddress?_toAddress_sharedVersion :
    ∃ params, sharedVersion.params = .ok params ∧
      params.decodeAddress?
          ((Destination.scriptHash (FixedBytes.zero 20)).toAddress params.addressVersions)
        = some (.pubkeyHash (FixedBytes.zero 20)) := by
  refine ⟨{ bitcoin with addressVersions := ⟨0, 0, []⟩ }, ?_, ?_⟩ <;> decide +kernel

/-! ## The Exodus output -/

/-- The script that pays a destination is recognised by its text when the Exodus address is the
canonical one of the destination. -/
@[simp] theorem isExodus_script_iff {d : Destination} :
    params.isExodus d.script = true ↔
      d.toAddress params.addressVersions = params.exodusAddress := by
  rw [isExodus, beq_iff_eq, addressOf?_script, Option.some_inj]

/-- Of payments to a key hash, the one that is recognised by its text is the one to the
**destination** of the Exodus address. -/
theorem isExodus_payToPubkeyHash_iff {hash : Hash160} :
    params.isExodus (Script.payToPubkeyHash hash) = true ↔
      params.exodusDestination? = some (.pubkeyHash hash) := by
  refine (isExodus_script_iff (d := .pubkeyHash hash)).trans ⟨fun h => ?_, fun h => ?_⟩
  · rw [exodusDestination?, decodeAddress?, ← h, Destination.ofAddress?_toAddress]
    exact Destination.ofVersion?_eq_some_iff.2 (Or.inl ⟨rfl, rfl⟩)
  · obtain ⟨version, hash', hpayload, hread⟩ := Destination.ofAddress?_eq_some_iff.1 h
    rcases Destination.ofVersion?_eq_some_iff.1 hread with ⟨hkey, -⟩ | ⟨-, -, hne⟩
    · exact Destination.toAddress_of_ofAddress? hpayload (Or.inl hkey) h
    · cases hne

/-- The script that pays an Exodus key hash is recognised as paying the **Exodus address**. -/
theorem isExodus_exodus {hash : Hash160}
    (h : params.exodusDestination? = some (.pubkeyHash hash)) :
    params.isExodus (Script.payToPubkeyHash hash) = true :=
  isExodus_payToPubkeyHash_iff.2 h

/-- The hash behind the Exodus address of the main network. -/
def mainExodus : Hash160 :=
  ⟨[148, 108, 178, 224, 128, 117, 188, 186, 241, 87, 228, 123, 203, 103, 235, 43, 35, 57, 210, 66],
    rfl⟩

/-- Parameters with so many packets of sixteen bytes that **no word** can count the bytes. -/
def overlong : Params := { bitcoin with packetSize := 16, maxPackets := 0x1000000000000000 }

/-- The Exodus address of the main network is that of a key hash. -/
@[simp] theorem exodusDestination?_bitcoin :
    bitcoin.exodusDestination? = some (.pubkeyHash mainExodus) := by
  decide +kernel

end Params

end OmniLayer
