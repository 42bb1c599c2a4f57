import Mathlib.Data.List.Forall2
import OmniLayer.Proofs.Script.Instructions

/-! # The grammar of the script classes

Each class of scripts but the last has a template, which says which bytes its scripts are made of
(`Template`). Classification gives a class to exactly the scripts of its template
(`classify_of_template`, `template_of_classify`), so no script fits two templates, and a script that
fits none is non-standard. That holds of every script that breaks off inside a push
(`classify_exact`). -/

namespace OmniLayer

/-! ## Keys and null data -/

/-- The bytes of a **serialised key**: a header byte and the length that goes with it. -/
inductive IsSerialisedKey : Bytes → Prop
  /-- The header gives the parity, and one coordinate follows. -/
  | compressed {header : UInt8} {body : Bytes} (h : header ∈ [0x02, 0x03])
    (hbody : body.length = 32) : IsSerialisedKey (header :: body)
  /-- Both coordinates follow. -/
  | uncompressed {header : UInt8} {body : Bytes} (h : header ∈ [0x04, 0x06, 0x07])
    (hbody : body.length = 64) : IsSerialisedKey (header :: body)

/-- The shape of a key is that of a serialised key. -/
theorem Secp256k1.hasKeyShape_iff {key : Bytes} :
    hasKeyShape key = true ↔ IsSerialisedKey key := by
  constructor
  · intro h
    cases key with
    | nil => cases h
    | cons header body =>
      unfold hasKeyShape at h
      dsimp only at h
      by_cases hcompressed : header = 2 ∨ header = 3
      · rw [if_pos hcompressed, beq_iff_eq] at h
        exact .compressed (by simpa using hcompressed) h
      rw [if_neg hcompressed] at h
      by_cases hfull : header = 4 ∨ header = 6 ∨ header = 7
      · rw [if_pos hfull, beq_iff_eq] at h
        exact .uncompressed (by simpa using hfull) h
      · rw [if_neg hfull] at h
        cases h
  · rintro (⟨h, hbody⟩ | ⟨h, hbody⟩)
    · simp only [List.mem_cons, List.not_mem_nil, or_false] at h
      unfold hasKeyShape
      dsimp only
      rw [if_pos h, beq_iff_eq, hbody]
    · rename_i header body
      simp only [List.mem_cons, List.not_mem_nil, or_false] at h
      have hne : ¬(header = 2 ∨ header = 3) := by
        rcases h with rfl | rfl | rfl <;> decide
      unfold hasKeyShape
      dsimp only
      rw [if_neg hne, if_pos h, beq_iff_eq, hbody]

namespace Script

open Instruction

/-- What may stand behind the first byte of **null data**: pushes, and bytes that push a number and
carry no data. -/
inductive IsNullDataBody : List Bytes → Script → Prop
  /-- Nothing need stand there. -/
  | nil : IsNullDataBody [] []
  /-- A push adds its data. -/
  | push {data : Bytes} {part : Script} {pushes : List Bytes} {rest : Script}
    (hpart : IsPush data part) (hrest : IsNullDataBody pushes rest) :
    IsNullDataBody (data :: pushes) (part ++ rest)
  /-- A number adds nothing. -/
  | number {code : UInt8} {pushes : List Bytes} {rest : Script}
    (hcode : 0x4f ≤ code ∧ code ≤ 0x60) (hrest : IsNullDataBody pushes rest) :
    IsNullDataBody pushes (code :: rest)

/-- A body of null data is a sequence of instructions that do no more than push. -/
theorem isNullDataBody_iff {pushes : List Bytes} {body : Script} :
    IsNullDataBody pushes body ↔
      ∃ items, Reads body items ∧ pushedData? items = some pushes := by
  constructor
  · intro h
    induction h with
    | nil => exact ⟨[], .nil, rfl⟩
    | push hpart _ ih =>
      obtain ⟨items, hreads, hdata⟩ := ih
      exact ⟨_ :: items, .cons (.push hpart) hreads, by rw [pushedData?, hdata]; rfl⟩
    | @number code pushes rest hcode _ ih =>
      obtain ⟨items, hreads, hdata⟩ := ih
      have hop : 0x4e < code := UInt8.lt_of_lt_of_le (by decide) hcode.1
      exact ⟨.op code :: items, .op hop hreads, by
        rw [pushedData?, if_pos (show code ≤ opLastNumber from hcode.2), hdata]⟩
  · rintro ⟨items, hreads, hdata⟩
    induction hreads generalizing pushes with
    | nil =>
      cases hdata
      exact .nil
    | cons hitem _ ih =>
      cases hitem with
      | push hpart =>
        obtain ⟨rest, hrest, rfl⟩ := Option.map_eq_some_iff.1 hdata
        exact .push hpart (ih hrest)
      | @op code hop =>
        rw [pushedData?] at hdata
        by_cases hnumber : code ≤ opLastNumber
        · rw [if_pos hnumber] at hdata
          exact .number ⟨hop, hnumber⟩ (ih hdata)
        · rw [if_neg hnumber] at hdata
          cases hdata

/-- Null data is its operation byte and a body. -/
theorem nullData?_cons_eq_some_iff {pushes : List Bytes} {body : Script} :
    nullData? (opReturn :: body) = some pushes ↔ IsNullDataBody pushes body := by
  rw [nullData?, if_pos rfl, Option.bind_eq_some_iff, isNullDataBody_iff]
  exact exists_congr fun items => and_congr_left fun _ => ofScript?_eq_some_iff

/-! ## Bare keys and multisig -/

/-- A bare key is pushed and checked. -/
@[simp] theorem pubkey?_eq_some_iff {items : List Instruction} {key : Bytes} :
    pubkey? items = some key ↔
      IsSerialisedKey key ∧ items = [.push key, .op opCheckSig] := by
  rw [← Secp256k1.hasKeyShape_iff]
  constructor
  · intro h
    unfold pubkey? at h
    split at h
    · next key' code =>
      by_cases hkey : code = opCheckSig ∧ Secp256k1.hasKeyShape key' = true
      · rw [if_pos hkey] at h
        cases h
        exact ⟨hkey.2, by rw [hkey.1]⟩
      · rw [if_neg hkey] at h
        cases h
    · cases h
  · rintro ⟨hkey, rfl⟩
    exact if_pos ⟨rfl, hkey⟩

/-- A small number is one of sixteen, and has an operation byte of its own. -/
@[simp] theorem smallNumber?_eq_some_iff {item : Instruction} {n : Nat} :
    smallNumber? item = some n ↔ 1 ≤ n ∧ n ≤ 16 ∧ item = .op (opNumber n) := by
  constructor
  · intro h
    cases item with
    | push data => cases h
    | op code =>
      unfold smallNumber? at h
      dsimp only at h
      by_cases hcode : 0x51 ≤ code ∧ code ≤ opLastNumber
      · rw [if_pos hcode, Option.some_inj] at h
        have hlow : 0x51 ≤ code.toNat := UInt8.le_iff_toNat_le.1 hcode.1
        have hhigh : code.toNat ≤ 0x60 := UInt8.le_iff_toNat_le.1 hcode.2
        have hnumber : opNumber n = code := by
          have hsum : 0x50 + n = code.toNat := by omega
          rw [opNumber, hsum, UInt8.ofNat_toNat]
        exact ⟨by omega, by omega, by rw [hnumber]⟩
      · rw [if_neg hcode] at h
        cases h
  · rintro ⟨hpos, hle, rfl⟩
    -- There are sixteen small numbers, so each is tried.
    have hall : ∀ m < 17, 0 < m → smallNumber? (.op (opNumber m)) = some m := by decide
    exact hall n (Nat.lt_succ_of_le hle) hpos

/-- Keys are read where nothing but keys is pushed. -/
@[simp] theorem keys?_eq_some_iff {items : List Instruction} {keys : List Bytes} :
    keys? items = some keys ↔ (∀ key ∈ keys, IsSerialisedKey key) ∧ items = keys.map .push := by
  simp only [← Secp256k1.hasKeyShape_iff]
  constructor
  · intro h
    induction items generalizing keys with
    | nil =>
      cases h
      exact ⟨List.forall_mem_nil _, rfl⟩
    | cons item items ih =>
      cases item with
      | op code => cases h
      | push key =>
        rw [keys?] at h
        by_cases hkey : Secp256k1.hasKeyShape key = true
        · rw [if_pos hkey] at h
          obtain ⟨rest, hrest, rfl⟩ := Option.map_eq_some_iff.1 h
          obtain ⟨hkeys, rfl⟩ := ih hrest
          exact ⟨List.forall_mem_cons.2 ⟨hkey, hkeys⟩, rfl⟩
        · rw [if_neg hkey] at h
          cases h
  · rintro ⟨hkeys, rfl⟩
    induction keys with
    | nil => rfl
    | cons key keys ih =>
      obtain ⟨hkey, hkeys⟩ := List.forall_mem_cons.1 hkeys
      rw [List.map_cons, keys?, if_pos hkey, ih hkeys]
      rfl

/-- The instructions of bare multisig: the required count, the keys, their count and the check. -/
def multisigItems (required : Nat) (keys : List Bytes) : List Instruction :=
  .op (opNumber required) ::
    (keys.map .push ++ [.op (opNumber keys.length), .op opCheckMultisig])

/-- Bare multisig is read from its instructions alone, with one to sixteen keys of which at least
one and at most all are required. -/
theorem multisig?_eq_some_iff {items : List Instruction} {required : Nat} {keys : List Bytes} :
    multisig? items = some (required, keys) ↔
      1 ≤ required ∧ required ≤ keys.length ∧ keys.length ≤ 16 ∧
        (∀ key ∈ keys, IsSerialisedKey key) ∧ items = multisigItems required keys := by
  constructor
  · intro h
    unfold multisig? at h
    split at h
    · cases h
    · next first rest =>
      split at h
      · next last total middle hreverse =>
        by_cases hlast : last = .op opCheckMultisig
        · rw [if_pos hlast] at h
          obtain ⟨n, hn, h⟩ := Option.bind_eq_some_iff.1 h
          obtain ⟨m, hm, h⟩ := Option.bind_eq_some_iff.1 h
          obtain ⟨found, hfound, h⟩ := Option.bind_eq_some_iff.1 h
          by_cases hcount : n ≤ m ∧ m = found.length
          · rw [if_pos hcount] at h
            cases h
            obtain ⟨hpos, -, rfl⟩ := smallNumber?_eq_some_iff.1 hn
            obtain ⟨-, hsixteen, rfl⟩ := smallNumber?_eq_some_iff.1 hm
            obtain ⟨hkeys, hmiddle⟩ := keys?_eq_some_iff.1 hfound
            obtain ⟨hle, rfl⟩ := hcount
            refine ⟨hpos, hle, hsixteen, hkeys, ?_⟩
            -- The reader took the check and the count of the keys off the end.
            rw [multisigItems, ← List.reverse_reverse rest, hreverse, List.reverse_cons,
              List.reverse_cons, hmiddle, hlast, List.append_assoc, List.singleton_append]
          · rw [if_neg hcount] at h
            cases h
        · rw [if_neg hlast] at h
          cases h
      · cases h
  · rintro ⟨hpos, hle, hsixteen, hkeys, rfl⟩
    have hreverse : (keys.map Instruction.push ++
          [Instruction.op (opNumber keys.length), .op opCheckMultisig]).reverse
        = .op opCheckMultisig :: .op (opNumber keys.length) :: (keys.map .push).reverse := by
      rw [List.reverse_append]
      rfl
    rw [multisigItems, multisig?, hreverse]
    dsimp only
    rw [if_pos rfl, smallNumber?_eq_some_iff.2 ⟨hpos, Nat.le_trans hle hsixteen, rfl⟩,
      smallNumber?_eq_some_iff.2 ⟨Nat.le_trans hpos hle, hsixteen, rfl⟩, List.reverse_reverse,
      keys?_eq_some_iff.2 ⟨hkeys, rfl⟩]
    exact if_pos ⟨hle, rfl⟩

/-! ## Templates -/

/-- The **templates** of the classes. A script that fits none is non-standard. -/
inductive Template : ScriptClass → Script → Prop
  /-- Duplicate, hash, compare with the hash, check. -/
  | pubkeyHash (hash : Hash160) :
    Template (.pubkeyHash hash) ([0x76, 0xa9, 0x14] ++ hash.bytes ++ [0x88, 0xac])
  /-- Hash, compare with the hash. -/
  | scriptHash (hash : Hash160) :
    Template (.scriptHash hash) ([0xa9, 0x14] ++ hash.bytes ++ [0x87])
  /-- A key in any form of a push, and the check. -/
  | pubkey {key : Bytes} {part : Script} (hkey : IsSerialisedKey key) (hpart : IsPush key part) :
    Template (.pubkey key) (part ++ [0xac])
  /-- The required count, the keys in any forms of pushes, their count and the check. -/
  | multisig {required : Nat} {keys : List Bytes} {parts : List Script} (hpos : 1 ≤ required)
    (hle : required ≤ keys.length) (hsixteen : keys.length ≤ 16)
    (hkeys : ∀ key ∈ keys, IsSerialisedKey key) (hparts : List.Forall₂ IsPush keys parts) :
    Template (.multisig required keys)
      (UInt8.ofNat (0x50 + required) ::
        (parts.flatten ++ [UInt8.ofNat (0x50 + keys.length), 0xae]))
  /-- The operation that returns, and nothing but pushes. -/
  | nullData {pushes : List Bytes} {body : Script} (hbody : IsNullDataBody pushes body) :
    Template (.nullData pushes) (0x6a :: body)

/-- A hash is found in the script that pays to it as a **key hash**, and in no other. -/
@[simp] theorem pubkeyHash?_eq_some_iff {script : Script} {hash : Hash160} :
    pubkeyHash? script = some hash ↔ script = payToPubkeyHash hash := by
  constructor
  · intro h
    unfold pubkeyHash? at h
    split at h
    · next body =>
      by_cases hend : body.drop 20 = [0x88, 0xac]
      · rw [if_pos hend] at h
        have hbody : hash.bytes ++ [0x88, 0xac] = body := by
          rw [← FixedBytes.ofBytes?_eq_some.1 h, ← hend, List.take_append_drop]
        rw [← hbody]
        rfl
      · rw [if_neg hend] at h
        cases h
    · cases h
  · rintro rfl
    change (if (hash.bytes ++ [0x88, 0xac]).drop 20 = [0x88, 0xac] then
      FixedBytes.ofBytes? 20 ((hash.bytes ++ [0x88, 0xac]).take 20) else none) = some hash
    rw [List.drop_left' hash.length_eq, List.take_left' hash.length_eq, if_pos rfl,
      FixedBytes.ofBytes?_bytes]

/-- A hash is found in the script that pays to it as a **script hash**, and in no other. -/
@[simp] theorem scriptHash?_eq_some_iff {script : Script} {hash : Hash160} :
    scriptHash? script = some hash ↔ script = payToScriptHash hash := by
  constructor
  · intro h
    unfold scriptHash? at h
    split at h
    · next body =>
      by_cases hend : body.drop 20 = [0x87]
      · rw [if_pos hend] at h
        have hbody : hash.bytes ++ [0x87] = body := by
          rw [← FixedBytes.ofBytes?_eq_some.1 h, ← hend, List.take_append_drop]
        rw [← hbody]
        rfl
      · rw [if_neg hend] at h
        cases h
    · cases h
  · rintro rfl
    change (if (hash.bytes ++ [0x87]).drop 20 = [0x87] then
      FixedBytes.ofBytes? 20 ((hash.bytes ++ [0x87]).take 20) else none) = some hash
    rw [List.drop_left' hash.length_eq, List.take_left' hash.length_eq, if_pos rfl,
      FixedBytes.ofBytes?_bytes]

/-! ## Sequences of pushed keys -/

/-- Pushes of keys are spelled one by one. -/
theorem reads_map_push_iff {keys : List Bytes} {script : Script} :
    Reads script (keys.map .push) ↔
      ∃ parts, List.Forall₂ IsPush keys parts ∧ script = parts.flatten := by
  constructor
  · intro h
    induction keys generalizing script with
    | nil =>
      cases h
      exact ⟨[], .nil, rfl⟩
    | cons key keys ih =>
      obtain ⟨part, rest, rfl, hitem, hrest⟩ := Reads.cons_iff.1 h
      obtain ⟨parts, hparts, rfl⟩ := ih hrest
      cases hitem with
      | push hpart => exact ⟨part :: parts, .cons hpart hparts, rfl⟩
  · rintro ⟨parts, hparts, rfl⟩
    induction hparts with
    | nil => exact .nil
    | cons hpart _ ih => exact .cons (.push hpart) ih

/-- The instructions of bare multisig are spelled as its template says. -/
theorem reads_multisigItems_iff {required : Nat} {keys : List Bytes} {script : Script}
    (hrequired : required ≤ 16) (hkeys : keys.length ≤ 16) :
    Reads script (multisigItems required keys) ↔
      ∃ parts, List.Forall₂ IsPush keys parts ∧
        script = opNumber required ::
          (parts.flatten ++ [opNumber keys.length, opCheckMultisig]) := by
  have hop : ∀ n < 17, 0x4e < opNumber n := by decide
  have hend : Reads [opNumber keys.length, opCheckMultisig]
      [.op (opNumber keys.length), .op opCheckMultisig] :=
    .op (hop _ (Nat.lt_succ_of_le hkeys)) (.op (by decide) .nil)
  rw [multisigItems, Reads.op_cons_iff]
  constructor
  · rintro ⟨rest, rfl, -, hrest⟩
    obtain ⟨front, back, rfl, hfront, hback⟩ := Reads.append_iff.1 hrest
    obtain ⟨parts, hparts, rfl⟩ := reads_map_push_iff.1 hfront
    obtain ⟨back, rfl, -, hback⟩ := Reads.op_cons_iff.1 hback
    obtain ⟨back, rfl, -, hback⟩ := Reads.op_cons_iff.1 hback
    cases hback
    exact ⟨parts, hparts, rfl⟩
  · rintro ⟨parts, hparts, rfl⟩
    exact ⟨_, rfl, hop _ (Nat.lt_succ_of_le hrequired),
      (reads_map_push_iff.2 ⟨parts, hparts, rfl⟩).append hend⟩

/-! ## Classification -/

/-- A script that starts with a push or a small number fits neither a hash template nor null
data. -/
theorem classify_eq_keyClass {code : UInt8} {rest : Script} (h : code ≤ opLastNumber) :
    classify (code :: rest) = keyClass (code :: rest) := by
  have hne {c : UInt8} (hc : opLastNumber < c) : code ≠ c := by
    rintro rfl
    exact absurd h (UInt8.not_le.2 hc)
  have hpubkey : pubkeyHash? (code :: rest) = none :=
    Option.eq_none_iff_forall_ne_some.2 fun hash hhash =>
      hne (by decide) (List.cons.inj (pubkeyHash?_eq_some_iff.1 hhash)).1
  have hscript : scriptHash? (code :: rest) = none :=
    Option.eq_none_iff_forall_ne_some.2 fun hash hhash =>
      hne (by decide) (List.cons.inj (scriptHash?_eq_some_iff.1 hhash)).1
  have hhead : ¬(code :: rest).head? = some opReturn := fun hcode =>
    hne (by decide) (Option.some.inj hcode)
  rw [classify, hpubkey, hscript]
  exact if_neg hhead

/-- A pushed key with its check is a bare key. -/
theorem keyClass_of_reads_pubkey {script : Script} {key : Bytes} (hkey : IsSerialisedKey key)
    (h : Reads script [.push key, .op opCheckSig]) : keyClass script = .pubkey key := by
  rw [keyClass, ofScript?_eq_some_iff.2 h]
  dsimp only
  rw [pubkey?_eq_some_iff.2 ⟨hkey, rfl⟩]

/-- The instructions of bare multisig are those of the class. -/
theorem keyClass_of_reads_multisig {script : Script} {required : Nat} {keys : List Bytes}
    (hpos : 1 ≤ required) (hle : required ≤ keys.length) (hsixteen : keys.length ≤ 16)
    (hkeys : ∀ key ∈ keys, IsSerialisedKey key) (h : Reads script (multisigItems required keys)) :
    keyClass script = .multisig required keys := by
  have hsingle : pubkey? (multisigItems required keys) = none := rfl
  rw [keyClass, ofScript?_eq_some_iff.2 h]
  dsimp only
  rw [hsingle, multisig?_eq_some_iff.2 ⟨hpos, hle, hsixteen, hkeys, rfl⟩]

/-- A script of the template of a class **is of that class**. -/
theorem classify_of_template {scriptClass : ScriptClass} {script : Script}
    (h : Template scriptClass script) : classify script = scriptClass := by
  -- The tests come in a fixed order, so each template has to fail those before its own.
  cases h with
  | pubkeyHash hash =>
    change classify (payToPubkeyHash hash) = _
    rw [classify, pubkeyHash?_eq_some_iff.2 rfl]
  | scriptHash hash =>
    have hpubkey : pubkeyHash? (payToScriptHash hash) = none := rfl
    change classify (payToScriptHash hash) = _
    rw [classify, hpubkey, scriptHash?_eq_some_iff.2 rfl]
  | @pubkey key part hkey hpart =>
    have hreads : Reads (part ++ [opCheckSig]) [.push key, .op opCheckSig] :=
      .cons (.push hpart) (.op (by decide) .nil)
    obtain ⟨code, rest, rfl, hcode⟩ := hpart.exists_eq_cons
    have hfirst : code ≤ opLastNumber := UInt8.le_trans hcode (by decide)
    exact (classify_eq_keyClass hfirst).trans (keyClass_of_reads_pubkey hkey hreads)
  | @multisig required keys parts hpos hle hsixteen hkeys hparts =>
    have hrequired : required ≤ 16 := Nat.le_trans hle hsixteen
    have hreads := (reads_multisigItems_iff hrequired hsixteen).2 ⟨parts, hparts, rfl⟩
    have hnumbers : ∀ n < 17, opNumber n ≤ opLastNumber := by decide
    have hfirst := hnumbers required (Nat.lt_succ_of_le hrequired)
    exact (classify_eq_keyClass hfirst).trans
      (keyClass_of_reads_multisig hpos hle hsixteen hkeys hreads)
  | @nullData pushes body hbody =>
    have hpubkey : pubkeyHash? (opReturn :: body) = none := rfl
    have hscript : scriptHash? (opReturn :: body) = none := rfl
    change classify (opReturn :: body) = _
    rw [classify, hpubkey, hscript, List.head?_cons, if_pos rfl,
      nullData?_cons_eq_some_iff.2 hbody]

/-- A script that is classified by its keys fits the template of its class. -/
theorem template_of_keyClass {scriptClass : ScriptClass} {script : Script}
    (h : keyClass script = scriptClass) (hne : scriptClass ≠ .nonStandard) :
    Template scriptClass script := by
  subst h
  unfold keyClass at hne ⊢
  cases hitems : ofScript? script with
  | none =>
    rw [hitems] at hne
    exact absurd rfl hne
  | some items =>
    have hreads := ofScript?_eq_some_iff.1 hitems
    rw [hitems] at hne
    dsimp only at hne ⊢
    cases hpubkey : pubkey? items with
    | some key =>
      obtain ⟨hkey, rfl⟩ := pubkey?_eq_some_iff.1 hpubkey
      obtain ⟨part, rest, rfl, hitem, hrest⟩ := Reads.cons_iff.1 hreads
      obtain ⟨rest, rfl, -, hrest⟩ := Reads.op_cons_iff.1 hrest
      cases hrest
      cases hitem with
      | push hpart => exact .pubkey hkey hpart
    | none =>
      rw [hpubkey] at hne
      dsimp only at hne ⊢
      cases hmultisig : multisig? items with
      | none =>
        rw [hmultisig] at hne
        exact absurd rfl hne
      | some found =>
        obtain ⟨required, keys⟩ := found
        obtain ⟨hpos, hle, hsixteen, hkeys, rfl⟩ := multisig?_eq_some_iff.1 hmultisig
        obtain ⟨parts, hparts, rfl⟩ :=
          (reads_multisigItems_iff (Nat.le_trans hle hsixteen) hsixteen).1 hreads
        exact .multisig hpos hle hsixteen hkeys hparts

/-- A script that is not non-standard **fits the template** of its class. -/
theorem template_of_classify {scriptClass : ScriptClass} {script : Script}
    (h : classify script = scriptClass) (hne : scriptClass ≠ .nonStandard) :
    Template scriptClass script := by
  unfold classify at h
  cases hpubkey : pubkeyHash? script with
  | some hash =>
    rw [hpubkey] at h
    subst h
    rw [pubkeyHash?_eq_some_iff.1 hpubkey]
    exact .pubkeyHash hash
  | none =>
    rw [hpubkey] at h
    dsimp only at h
    cases hscript : scriptHash? script with
    | some hash =>
      rw [hscript] at h
      subst h
      rw [scriptHash?_eq_some_iff.1 hscript]
      exact .scriptHash hash
    | none =>
      rw [hscript] at h
      dsimp only at h
      by_cases hreturn : script.head? = some opReturn
      · obtain ⟨body, rfl⟩ := List.head?_eq_some_iff.1 hreturn
        rw [if_pos hreturn] at h
        cases hdata : nullData? (opReturn :: body) with
        | none =>
          rw [hdata] at h
          exact absurd h.symm hne
        | some pushes =>
          rw [hdata] at h
          subst h
          exact .nullData (nullData?_cons_eq_some_iff.1 hdata)
      · rw [if_neg hreturn] at h
        exact template_of_keyClass h hne

/-- A script fits the template of its class, if that has one, and **no other**. -/
theorem template_iff {scriptClass : ScriptClass} {script : Script} :
    Template scriptClass script ↔ classify script = scriptClass ∧ scriptClass ≠ .nonStandard := by
  constructor
  · intro h
    refine ⟨classify_of_template h, ?_⟩
    rintro rfl
    cases h
  · rintro ⟨h, hne⟩
    exact template_of_classify h hne

/-- A script that fits a template is a complete sequence of instructions. -/
theorem exists_reads_of_template {scriptClass : ScriptClass} {script : Script}
    (h : Template scriptClass script) : ∃ items, Reads script items := by
  have hhash (hash : Hash160) : IsPush hash.bytes (0x14 :: hash.bytes) := by
    have hpush : IsPush hash.bytes (UInt8.ofNat hash.bytes.length :: hash.bytes) :=
      .direct (by rw [hash.length_eq]; decide)
    rwa [hash.length_eq] at hpush
  -- In a hash template the hash stands behind its length, so the two are a direct push.
  cases h with
  | pubkeyHash hash =>
    have hend : Reads [0x88, 0xac] [.op 0x88, .op 0xac] := .op (by decide) (.op (by decide) .nil)
    exact ⟨[.op 0x76, .op 0xa9, .push hash.bytes, .op 0x88, .op 0xac],
      .op (by decide) (.op (by decide) (.cons (.push (hhash hash)) hend))⟩
  | scriptHash hash =>
    have hend : Reads [0x87] [.op 0x87] := .op (by decide) .nil
    exact ⟨[.op 0xa9, .push hash.bytes, .op 0x87],
      .op (by decide) (.cons (.push (hhash hash)) hend)⟩
  | pubkey _ hpart => exact ⟨_, .cons (.push hpart) (.op (by decide) .nil)⟩
  | multisig _ hle hsixteen _ hparts =>
    exact ⟨_, (reads_multisigItems_iff (Nat.le_trans hle hsixteen) hsixteen).2 ⟨_, hparts, rfl⟩⟩
  | nullData hbody =>
    obtain ⟨items, hreads, -⟩ := isNullDataBody_iff.1 hbody
    exact ⟨.op 0x6a :: items, .op (by decide) hreads⟩

/-- A script that breaks off inside a push fits no template. -/
theorem not_template_of_breaksOff {scriptClass : ScriptClass} {script : Script}
    (h : BreaksOff script) : ¬Template scriptClass script := by
  intro htemplate
  obtain ⟨items, hreads⟩ := exists_reads_of_template htemplate
  have hread := ofScript?_eq_some_iff.2 hreads
  rw [ofScript?_eq_none_of_breaksOff h] at hread
  cases hread

/-- **Classification follows the templates exactly.** A script fits the template of a class when it
is of that class, so it fits one template at most; it is non-standard when it fits none; and it fits
none when it breaks off inside a push. -/
theorem classify_exact (script : Script) :
    (∀ scriptClass, Template scriptClass script ↔
        classify script = scriptClass ∧ scriptClass ≠ .nonStandard) ∧
      (classify script = .nonStandard ↔ ∀ scriptClass, ¬Template scriptClass script) ∧
      (BreaksOff script → classify script = .nonStandard) := by
  have hnone : classify script = .nonStandard ↔ ∀ scriptClass, ¬Template scriptClass script := by
    constructor
    · intro h scriptClass htemplate
      obtain ⟨rfl, hne⟩ := template_iff.1 htemplate
      exact hne h
    · intro h
      by_contra hne
      exact h _ (template_iff.2 ⟨rfl, hne⟩)
  exact ⟨fun scriptClass => template_iff, hnone,
    fun h => hnone.2 fun scriptClass => not_template_of_breaksOff h⟩

/-- A bare multisig whose second key is pushed with a longer field than it needs. -/
def longPush : Script :=
  0x51 :: ((0x21 :: 0x02 :: List.replicate 32 0x11) ++
    (0x4d :: 0x41 :: 0x00 :: 0x04 :: List.replicate 64 0x11) ++ [0x52, 0xae])

/-- Null data with a complete push, and then one that lacks a byte. -/
def brokenNullData : Script := [0x6a, 0x01, 0xaa, 0x4d, 0x02, 0x00, 0xbb]

/-- The template of bare multisig takes any form of a push, and no template takes a script that
breaks off. -/
theorem classify_exact_pushForms :
    classify longPush
        = .multisig 1 [0x02 :: List.replicate 32 0x11, 0x04 :: List.replicate 64 0x11] ∧
      BreaksOff brokenNullData ∧ classify brokenNullData = .nonStandard := by
  have hkeys : ∀ key ∈ [0x02 :: List.replicate 32 0x11, 0x04 :: List.replicate 64 0x11],
      IsSerialisedKey key := by
    refine List.forall_mem_cons.2 ⟨.compressed (by decide) (by decide), ?_⟩
    exact List.forall_mem_singleton.2 (.uncompressed (by decide) (by decide))
  have hfield : ((0x4d : UInt8), 2) ∈ lengthFields := by decide
  have hparts : List.Forall₂ IsPush
      [0x02 :: List.replicate 32 0x11, 0x04 :: List.replicate 64 0x11]
      [0x21 :: 0x02 :: List.replicate 32 0x11,
        0x4d :: 0x41 :: 0x00 :: 0x04 :: List.replicate 64 0x11] :=
    .cons (.direct (by decide)) (.cons (.sized hfield (by decide)) .nil)
  have htemplate : Template
      (.multisig 1 [0x02 :: List.replicate 32 0x11, 0x04 :: List.replicate 64 0x11]) longPush :=
    .multisig (by decide) (by decide) (by decide) hkeys hparts
  have hbreaks : BreaksOff brokenNullData := by
    have hpush : Reads ([0x01, 0xaa] ++ []) [.push [0xaa]] :=
      .cons (.push (.direct (by decide))) .nil
    have hcut : IsCutPush (0x4d :: ([0x02, 0x00] ++ [0xbb])) := .sized hfield rfl (by decide)
    exact ⟨_, _, _, rfl, .op (by decide) hpush, hcut⟩
  exact ⟨(((classify_exact longPush).1 _).1 htemplate).1, hbreaks,
    (classify_exact brokenNullData).2.2 hbreaks⟩

end Script

end OmniLayer
