import OmniLayer.Destination
import OmniLayer.Proofs.Bounds.Access
import OmniLayer.Proofs.Script.Templates

/-! # Scripts and addresses within bounds

The class of a script and the destination of an address, read by place. The hash of a payment is cut
out behind a test of the whole script, whose length the test fixes (`paysHash_iff`); the number of
keys is computed from an operation byte behind a test of its range; and an address is taken apart
behind a test of its length. So no script and no address makes a run fault (`classify_eq_ok`,
`ofAddress?_eq_ok`). -/

namespace OmniLayer.Checked

variable {ε : Type} {params : Params}

/-! ## Payments to a hash -/

/-- Whether a script is a hash between **fixed bytes**. -/
def paysHash (front back : Bytes) (script : Script) : Bool :=
  script.length == front.length + 20 + back.length && script.take front.length == front &&
    script.drop (front.length + 20) == back

/-- The hash behind the first bytes of a script. -/
def hashBehind (front : Bytes) (script : Script) : Checked ε Hash160 := do
  let hash ← slice script front.length (front.length + 20)
  fixed 20 hash

/-- A script that passes the test is **long enough** for the hash. -/
theorem paysHash_iff {front back : Bytes} {script : Script} :
    paysHash front back script = true ↔ ∃ hash : Hash160, script = front ++ hash.bytes ++ back := by
  constructor
  · intro h
    simp only [paysHash, Bool.and_eq_true, beq_iff_eq] at h
    obtain ⟨⟨hlength, hfront⟩, hback⟩ := h
    have hhash : ((script.drop front.length).take 20).length = 20 := by
      rw [List.length_take, List.length_drop]
      omega
    refine ⟨⟨(script.drop front.length).take 20, hhash⟩, ?_⟩
    -- The script is its first bytes, the next twenty and the rest.
    calc script
        = script.take front.length ++ ((script.drop front.length).take 20
            ++ (script.drop front.length).drop 20) := by
          rw [List.take_append_drop, List.take_append_drop]
      _ = front ++ (script.drop front.length).take 20 ++ back := by
          rw [List.drop_drop, hback, hfront, List.append_assoc]
  · rintro ⟨hash, rfl⟩
    have hlength := hash.length_eq
    simp [paysHash, hlength, List.drop_append, Nat.add_assoc]

/-- The hash of a payment is cut out **within** the script. -/
theorem hashBehind_eq_ok (front back : Bytes) (hash : Hash160) :
    (hashBehind front (front ++ hash.bytes ++ back) : Checked ε Hash160) = .ok hash := by
  have hlength := hash.length_eq
  have hcut : (((front ++ hash.bytes ++ back).take (front.length + 20)).drop front.length)
      = hash.bytes := by
    have htake : (front ++ hash.bytes).length = front.length + 20 := by
      rw [List.length_append, hlength]
    rw [List.take_left' htake, List.drop_left]
  have hstop : front.length + 20 ≤ (front ++ hash.bytes ++ back).length := by
    simp only [List.length_append, hlength]
    omega
  rw [hashBehind, slice_eq_ok (Nat.le_add_right _ _) hstop, hcut]
  exact fixed_eq_ok (FixedBytes.ofBytes?_bytes hash)

/-! ## Bare multisig -/

/-- The small number that an instruction pushes. -/
def smallNumber? : Instruction → Checked ε (Option Nat)
  | .op code =>
    if 0x51 ≤ code ∧ code ≤ Script.opLastNumber then do
      let behind ← sub code.toNat 0x51
      return some (← add UInt8.size behind 1)
    else return none
  | .push _ => return none

/-- The signature count and the keys of a bare multisig script. -/
def multisig? : List Instruction → Checked ε (Option (Nat × List Bytes))
  | [] => return none
  | first :: rest =>
    match rest.reverse with
    | last :: total :: middle =>
      if last = .op Script.opCheckMultisig then do
        match ← smallNumber? first with
        | none => return none
        | some required =>
          match ← smallNumber? total with
          | none => return none
          | some total =>
            return (Script.keys? middle.reverse).bind fun keys =>
              if required ≤ total ∧ total = keys.length then some (required, keys) else none
      else return none
    | _ => return none

/-- The operation bytes for small numbers are those **from one on**. -/
@[simp] theorem smallNumber?_eq_ok (item : Instruction) :
    (smallNumber? item : Checked ε (Option Nat)) = .ok (Script.smallNumber? item) := by
  cases item with
  | push data => rfl
  | op code =>
    by_cases hrange : 0x51 ≤ code ∧ code ≤ Script.opLastNumber
    · have hlow : 0x51 ≤ code.toNat := UInt8.le_iff_toNat_le.1 hrange.1
      have hword : code.toNat - 0x51 + 1 < UInt8.size := by
        have hcode : code.toNat < UInt8.size := code.toNat_lt
        omega
      rw [smallNumber?, Script.smallNumber?, if_pos hrange, if_pos hrange, sub_eq_ok hlow, ok_bind,
        add_eq_ok hword, ok_bind]
      exact congrArg (fun n => Except.ok (some n)) (by omega)
    · rw [smallNumber?, Script.smallNumber?, if_neg hrange, if_neg hrange]
      rfl

/-- The numbers of a bare multisig script are computed within a byte. -/
@[simp] theorem multisig?_eq_ok (items : List Instruction) :
    (multisig? items : Checked ε (Option (Nat × List Bytes))) = .ok (Script.multisig? items) := by
  cases items with
  | nil => rfl
  | cons first rest =>
    unfold multisig? Script.multisig?
    dsimp only
    match rest.reverse with
    | [] => rfl
    | [last] => rfl
    | last :: total :: middle =>
      dsimp only
      by_cases hlast : last = .op Script.opCheckMultisig
      · rw [if_pos hlast, if_pos hlast, smallNumber?_eq_ok, smallNumber?_eq_ok]
        cases Script.smallNumber? first with
        | none => rfl
        | some required => cases Script.smallNumber? total <;> rfl
      · rw [if_neg hlast, if_neg hlast]
        rfl

/-! ## Classes -/

/-- The **class of a script**. -/
def classify (script : Script) : Checked ε ScriptClass := do
  if paysHash [0x76, 0xa9, 0x14] [0x88, 0xac] script then
    return .pubkeyHash (← hashBehind [0x76, 0xa9, 0x14] script)
  else if paysHash [0xa9, 0x14] [0x87] script then
    return .scriptHash (← hashBehind [0xa9, 0x14] script)
  else if script.head? = some Script.opReturn then
    let body ← slice script 1 script.length
    match (Instruction.ofScript? body).bind Script.pushedData? with
    | some pushes => return .nullData pushes
    | none => return .nonStandard
  else
    match Instruction.ofScript? script with
    | none => return .nonStandard
    | some items =>
      match Script.pubkey? items with
      | some key => return .pubkey key
      | none =>
        match ← multisig? items with
        | some (required, keys) => return .multisig required keys
        | none => return .nonStandard

/-- **Every script is classified within its bounds.** -/
@[simp] theorem classify_eq_ok (script : Script) :
    (classify script : Checked ε ScriptClass) = .ok (Script.classify script) := by
  unfold classify
  by_cases hkey : paysHash [0x76, 0xa9, 0x14] [0x88, 0xac] script = true
  · obtain ⟨hash, rfl⟩ := paysHash_iff.1 hkey
    rw [if_pos hkey, hashBehind_eq_ok]
    exact congrArg Except.ok (Script.classify_payToPubkeyHash hash).symm
  rw [if_neg hkey]
  by_cases hscript : paysHash [0xa9, 0x14] [0x87] script = true
  · obtain ⟨hash, rfl⟩ := paysHash_iff.1 hscript
    rw [if_pos hscript, hashBehind_eq_ok]
    exact congrArg Except.ok (Script.classify_payToScriptHash hash).symm
  rw [if_neg hscript]
  -- A script that is no payment to a hash is classified by its first byte, or as keys.
  have hnoKey : Script.pubkeyHash? script = none :=
    Option.eq_none_iff_forall_ne_some.2 fun hash h =>
      hkey (paysHash_iff.2 ⟨hash, Script.pubkeyHash?_eq_some_iff.1 h⟩)
  have hnoScript : Script.scriptHash? script = none :=
    Option.eq_none_iff_forall_ne_some.2 fun hash h =>
      hscript (paysHash_iff.2 ⟨hash, Script.scriptHash?_eq_some_iff.1 h⟩)
  unfold Script.classify
  rw [hnoKey, hnoScript]
  dsimp only
  by_cases hreturn : script.head? = some Script.opReturn
  · obtain ⟨body, rfl⟩ := List.head?_eq_some_iff.1 hreturn
    rw [if_pos hreturn, if_pos hreturn, slice_length_eq_ok (Nat.le_add_left _ _), ok_bind,
      Script.nullData?, if_pos rfl, List.drop_one, List.tail_cons]
    cases (Instruction.ofScript? body).bind Script.pushedData? <;> rfl
  · rw [if_neg hreturn, if_neg hreturn]
    unfold Script.keyClass
    cases Instruction.ofScript? script with
    | none => rfl
    | some items =>
      dsimp only
      cases Script.pubkey? items with
      | some key => rfl
      | none =>
        dsimp only
        rw [multisig?_eq_ok, ok_bind]
        cases Script.multisig? items <;> rfl

/-! ## Addresses -/

/-- The destination that an **address** stands for. -/
def ofAddress? (versions : AddressVersions) (address : String) :
    Checked ε (Option Destination) := do
  match Base58.decodeCheck? address with
  | none => return none
  | some data =>
    if data.length ≠ 21 then return none
    else
      let body ← slice data 1 data.length
      let hash ← fixed 20 body
      let version ← get data 0
      return Destination.ofVersion? versions version hash

/-- **Every address is taken apart within its bounds.** -/
theorem ofAddress?_eq_ok (versions : AddressVersions) (address : String) :
    (ofAddress? versions address : Checked ε (Option Destination))
      = .ok (Destination.ofAddress? versions address) := by
  unfold ofAddress? Destination.ofAddress?
  cases Base58.decodeCheck? address with
  | none => rfl
  | some data =>
    dsimp only
    cases data with
    | nil => rfl
    | cons version body =>
      by_cases hlength : (version :: body).length ≠ 21
      · -- Bytes of another length hold no hash.
        have hnone : FixedBytes.ofBytes? 20 body = none :=
          dif_neg fun h => hlength (congrArg Nat.succ h)
        rw [if_pos hlength, Option.bind_eq_bind, Option.bind_some]
        dsimp only
        rw [hnone]
        rfl
      · have hhash : FixedBytes.ofBytes? 20 body
            = some ⟨body, Nat.succ.inj (not_not.1 hlength)⟩ := dif_pos _
        rw [if_neg hlength, slice_length_eq_ok (Nat.le_add_left _ _), ok_bind, List.drop_one,
          List.tail_cons, fixed_eq_ok hhash, ok_bind, get_eq_ok List.getElem?_cons_zero, ok_bind,
          Option.bind_eq_bind, Option.bind_some]
        dsimp only
        rw [hhash]
        rfl

/-- The destination that the Exodus address stands for. -/
def exodusDestination? (params : Params) : Checked ε (Option Destination) :=
  ofAddress? params.addressVersions params.exodusAddress

/-- The Exodus address is read **as every address is**. -/
@[simp] theorem exodusDestination?_eq_ok (params : Params) :
    (exodusDestination? params : Checked ε (Option Destination)) = .ok params.exodusDestination? :=
  ofAddress?_eq_ok _ _

/-- The **address of a script**, if it has one. -/
def addressOf? (params : Params) (script : Script) : Checked ε (Option String) := do
  let scriptClass ← classify script
  return (Destination.ofClass? scriptClass).map (Destination.toAddress params.addressVersions)

/-- A script is classified within bounds, so **it has its address**. -/
@[simp] theorem addressOf?_eq_ok (params : Params) (script : Script) :
    (addressOf? params script : Checked ε (Option String)) = .ok (params.addressOf? script) := by
  rw [addressOf?, classify_eq_ok]
  rfl

end OmniLayer.Checked
