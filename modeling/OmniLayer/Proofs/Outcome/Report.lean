import OmniLayer.Outcome.Report
import OmniLayer.Proofs.Text.Hex
import Mathlib.Data.List.Nodup

/-! # Outcomes survive JSON

An outcome is read from an object when each of its fields stands there, up to the normal form of the
value (`Outcome.IsIn`): a missing receiver counts as `null`, digits may be capital, a carrier may be
a key, and other fields are not looked at. A list is read as the fields that its values are in order
(`Outcome.IsReadFrom`). The fields that an outcome is written as are in normal form and have
different keys, so it is read back from them in any order (`Outcome.isIn_of_perm`). -/

namespace OmniLayer

namespace Json

variable {fields fields' : List (String × Json)} {key : String} {value : Json}

/-- Among fields with different keys, a value is found under its key. -/
theorem field?_eq_some_iff (h : (fields.map Prod.fst).Nodup) :
    field? key fields = some value ↔ (key, value) ∈ fields := by
  induction fields with
  | nil => simp [field?]
  | cons field rest ih =>
    obtain ⟨k, v⟩ := field
    rw [List.map_cons, List.nodup_cons] at h
    rw [field?, List.mem_cons, Prod.mk.injEq, ← ih h.2]
    by_cases hk : k = key
    · subst hk
      have hrest : field? k rest ≠ some value := by
        rw [Ne, ih h.2]
        exact fun hmem => h.1 (List.mem_map.2 ⟨(k, value), hmem, rfl⟩)
      simp [hrest, eq_comm]
    · rw [if_neg hk]
      simp [Ne.symm hk]

/-- The **order** of fields with different keys makes no difference. -/
theorem field?_of_perm (h : fields.Perm fields') (hkeys : (fields.map Prod.fst).Nodup)
    (key : String) : field? key fields = field? key fields' := by
  refine Option.ext fun value => ?_
  rw [field?_eq_some_iff hkeys, field?_eq_some_iff ((h.map Prod.fst).nodup_iff.1 hkeys), h.mem_iff]

/-- Inserting a field in order adds **it alone**. -/
theorem insertField_perm (field : String × Json) (fields : List (String × Json)) :
    (insertField field fields).Perm (field :: fields) := by
  induction fields with
  | nil => exact .refl _
  | cons other rest ih =>
    rw [insertField]
    split_ifs
    · exact .refl _
    · exact (ih.cons other).trans (.swap field other rest)

/-- An object in ascending order of its keys has the **fields** that were put into it. -/
theorem exists_sortedObject_eq (fields : List (String × Json)) :
    ∃ sorted : List (String × Json), sortedObject fields = .object sorted ∧ sorted.Perm fields := by
  -- What is sorted already keeps its fields, too.
  have hfold (start : List (String × Json)) :
      (fields.foldl (fun sorted field => insertField field sorted) start).Perm
        (fields ++ start) := by
    induction fields generalizing start with
    | nil => exact .refl start
    | cons field rest ih =>
      refine (ih (insertField field start)).trans ?_
      exact ((insertField_perm field start).append_left rest).trans List.perm_middle
  refine ⟨_, rfl, ?_⟩
  have h := hfold []
  rwa [List.append_nil] at h

/-- A text in small letters; other values as they are. -/
def lowerText : Json → Json
  | .string text => .string (Text.lowerAscii text)
  | json => json

/-- A letter, if it stands alone as the key of an empty field; other values as they are. -/
def plainLetter : Json → Json
  | .object [(letter, .null)] => .string letter
  | .object [(letter, .object [])] => .string letter
  | json => json

end Json

/-! ## Values -/

namespace Message

variable {json : Json}

/-- A text is read from **itself**. -/
@[simp] theorem text?_eq_some_iff {text : String} :
    text? json = some text ↔ json = .string text := by
  cases json <;> simp [text?]

/-- A text that may be missing is read from itself, and none from **nothing or null**. -/
@[simp] theorem optionalText?_eq_some_iff {value : Option Json} {text : Option String} :
    optionalText? value = some text ↔ value.getD .null = .optional text := by
  cases value with
  | none => cases text <;> simp [optionalText?, Json.optional]
  | some json => cases json <;> cases text <;> simp [optionalText?, Json.optional]

/-- A signed 64-bit word is read from **its number**. -/
@[simp] theorem int64?_eq_some_iff {n : Int64} :
    int64? json = some n ↔ json = .integer n.toInt := by
  cases json with
  | integer m =>
    rw [int64?, Option.ite_none_right_eq_some, Option.some_inj, Json.integer.injEq]
    constructor
    · rintro ⟨⟨hlow, hhigh⟩, rfl⟩
      exact (Int64.toInt_ofInt_of_le hlow (Int.lt_add_one_of_le hhigh)).symm
    · rintro rfl
      exact ⟨⟨n.le_toInt, Int.le_of_lt_add_one n.toInt_lt⟩, Int64.ofInt_toInt n⟩
  | _ => simp [int64?]

/-- A 32-bit word is read from **its number**. -/
@[simp] theorem uint32?_eq_some_iff {n : UInt32} : uint32? json = some n ↔ json = .nat n.toNat := by
  cases json with
  | integer m =>
    rw [uint32?, Option.ite_none_right_eq_some, Option.some_inj, Json.nat, Json.integer.injEq]
    constructor
    · rintro ⟨⟨hlow, hhigh⟩, rfl⟩
      rw [UInt32.toNat_ofNat_of_lt' (by omega)]
      omega
    · rintro rfl
      have hlt : n.toNat < UInt32.size := n.toNat_lt
      exact ⟨⟨by omega, by omega⟩, by rw [Int.toNat_natCast, UInt32.ofNat_toNat]⟩
  | _ => simp [uint32?, Json.nat]

/-- Bytes are read from their hexadecimal text **in either case**. -/
@[simp] theorem hex?_eq_some_iff {bs : Bytes} :
    hex? json = some bs ↔ json.lowerText = .string (Hex.encode bs) := by
  cases json with
  | string text =>
    rw [Json.lowerText, Json.string.injEq, ← Hex.decode_eq_ok_iff]
    change (Hex.decode text).toOption = some bs ↔ _
    cases Hex.decode text <;> simp [Except.toOption]
  | _ => simp [hex?, text?, Json.lowerText]

/-- A letter is that of **its carrier**. -/
@[simp] theorem ofLetter?_eq_some_iff {letter : String} {carrier : Carrier} :
    Carrier.ofLetter? letter = some carrier ↔ letter = carrier.letter := by
  unfold Carrier.ofLetter?
  constructor
  · intro h
    split_ifs at h with ha hb hc <;> cases h <;> assumption
  · rintro rfl
    cases carrier <;> rfl

/-- A carrier is read from its letter, **alone or as a key**. -/
@[simp] theorem carrier?_eq_some_iff {carrier : Carrier} :
    carrier? json = some carrier ↔ json.plainLetter = .string carrier.letter := by
  unfold carrier? Json.plainLetter
  split
  · simp [ofLetter?_eq_some_iff]
  · simp [ofLetter?_eq_some_iff]
  · simp [ofLetter?_eq_some_iff]
  · next hletter hnull hempty =>
    have hplain : json.plainLetter = json := by
      unfold Json.plainLetter
      split
      · exact absurd rfl (hnull _)
      · exact absurd rfl (hempty _)
      · rfl
    change _ ↔ json.plainLetter = _
    rw [hplain]
    exact iff_of_false (Option.some_ne_none _).symm fun h => hletter _ h

/-- A message is read from values when **each** of its fields is read from its value. -/
theorem ofValues?_eq_some_iff {txid sender fee payload carrier blockHeight blockTime : Json}
    {receiver : Option Json} {m : Message} :
    ofValues? txid sender receiver fee payload carrier blockHeight blockTime = some m ↔
      text? txid = some m.txid ∧ text? sender = some m.sender ∧
        optionalText? receiver = some m.receiver ∧ int64? fee = some m.fee ∧
        hex? payload = some m.payload ∧ carrier? carrier = some m.carrier ∧
        uint32? blockHeight = some m.blockHeight ∧ uint32? blockTime = some m.blockTime := by
  simp only [ofValues?, Option.bind_eq_bind, Option.bind_eq_some_iff, Option.pure_def,
    Option.some_inj]
  constructor
  · rintro ⟨_, h1, _, h2, _, h3, _, h4, _, h5, _, h6, _, h7, _, h8, rfl⟩
    exact ⟨h1, h2, h3, h4, h5, h6, h7, h8⟩
  · rintro ⟨h1, h2, h3, h4, h5, h6, h7, h8⟩
    exact ⟨_, h1, _, h2, _, h3, _, h4, _, h5, _, h6, _, h7, _, h8, rfl⟩

/-- A message is read from fields when **each** of its own stands there, up to its spelling. -/
theorem ofFields?_eq_some_iff {fields : List (String × Json)} {m : Message} :
    ofFields? fields = some m ↔
      Json.field? "txid" fields = some (.string m.txid) ∧
      Json.field? "sender" fields = some (.string m.sender) ∧
      (Json.field? "receiver" fields).getD .null = .optional m.receiver ∧
      Json.field? "fee" fields = some (.integer m.fee.toInt) ∧
      (Json.field? "payload" fields).map Json.lowerText = some (.string (Hex.encode m.payload)) ∧
      (Json.field? "encoding_class" fields).map Json.plainLetter
        = some (.string m.carrier.letter) ∧
      Json.field? "block_height" fields = some (.nat m.blockHeight.toNat) ∧
      Json.field? "block_time" fields = some (.nat m.blockTime.toNat) := by
  simp only [ofFields?, Option.bind_eq_bind, Option.bind_eq_some_iff, ofValues?_eq_some_iff,
    text?_eq_some_iff, int64?_eq_some_iff, uint32?_eq_some_iff, optionalText?_eq_some_iff,
    hex?_eq_some_iff, carrier?_eq_some_iff, Option.map_eq_some_iff]
  constructor
  · rintro ⟨_, htxid, _, hsender, _, hfee, _, hpayload, _, hcarrier, _, hheight, _, htime,
      rfl, rfl, hreceiver, rfl, hhex, hletter, rfl, rfl⟩
    exact ⟨htxid, hsender, hreceiver, hfee, ⟨_, hpayload, hhex⟩, ⟨_, hcarrier, hletter⟩, hheight,
      htime⟩
  · rintro ⟨htxid, hsender, hreceiver, hfee, ⟨_, hpayload, hhex⟩, ⟨_, hcarrier, hletter⟩,
      hheight, htime⟩
    exact ⟨_, htxid, _, hsender, _, hfee, _, hpayload, _, hcarrier, _, hheight, _, htime,
      rfl, rfl, hreceiver, rfl, hhex, hletter, rfl, rfl⟩

end Message

/-! ## Normal forms -/

namespace Outcome

/-- The **keys** under which fields are read. -/
def readKeys : List String :=
  ["status", "txid", "sender", "receiver", "fee", "payload", "encoding_class", "block_height",
    "block_time"]

/-- What is found under a key in **normal form**: a missing receiver is `null`, hexadecimal digits
are small and a carrier is its letter. -/
def normalised (key : String) (found : Option Json) : Option Json :=
  if key = "receiver" then some (found.getD .null)
  else if key = "payload" then found.map Json.lowerText
  else if key = "encoding_class" then found.map Json.plainLetter
  else found

/-- Whether each field of an outcome is **among** fields, up to normal form. -/
def IsIn (outcome : Outcome) (fields : List (String × Json)) : Prop :=
  ∀ field ∈ outcome.fields, normalised field.1 (Json.field? field.1 fields) = some field.2

variable {fields fields' : List (String × Json)}

/-- A message is among fields when its status is, and what they **are read as** is the message. -/
@[simp] theorem isIn_message_iff {m : Message} : (Outcome.message m).IsIn fields ↔
    Json.field? "status" fields = some (.string "message") ∧
      Message.ofFields? fields = some m := by
  rw [Message.ofFields?_eq_some_iff]
  simp [IsIn, Outcome.fields, Message.fields, normalised]

/-- That there is no message is among fields when the **status** says so. -/
@[simp] theorem isIn_notProtocol_iff :
    notProtocol.IsIn fields ↔ Json.field? "status" fields = some (.string "not_protocol") := by
  simp [IsIn, Outcome.fields, normalised]

/-- An outcome is read from an **object** when its fields are among those of the object. -/
@[simp] theorem ofJson?_object_eq_some_iff {outcome : Outcome} :
    ofJson? (.object fields) = some outcome ↔ outcome.IsIn fields := by
  rw [ofJson?]
  cases outcome with
  | message m =>
    rw [isIn_message_iff]
    split
    · next h => simp [h]
    · next h => simp [h]
    · next hmessage _ => exact iff_of_false (Option.some_ne_none _).symm fun h => hmessage h.1
  | notProtocol =>
    rw [isIn_notProtocol_iff]
    split
    · next h => simp [h]
    · next h => simp [h]
    · next _ hnone => exact iff_of_false (Option.some_ne_none _).symm hnone

/-- A list is read as a message when it is a status and **eight values** that are read as one. -/
theorem ofJson?_array_eq_message_iff {m : Message} {items : List Json} :
    ofJson? (.array items) = some (.message m) ↔
      ∃ a b c d e f g h, items = [.string "message", a, b, c, d, e, f, g, h] ∧
        Message.ofItems? [a, b, c, d, e, f, g, h] = some m := by
  constructor
  · intro hread
    unfold ofJson? at hread
    split at hread
    · next heq => cases heq
    · next values heq =>
      cases heq
      obtain ⟨m', hvalues, hm⟩ := Option.map_eq_some_iff.1 hread
      cases hm
      unfold Message.ofItems? at hvalues
      split at hvalues
      · exact ⟨_, _, _, _, _, _, _, _, rfl, hvalues⟩
      · cases hvalues
    · cases hread
    · cases hread
  · rintro ⟨a, b, c, d, e, f, g, h, rfl, hread⟩
    change (Message.ofItems? [a, b, c, d, e, f, g, h]).map Outcome.message = _
    rw [hread]
    rfl

/-- Eight values are read as the **fields** that they are in order. -/
theorem isIn_zip_iff {m : Message} {status a b c d e f g h : Json} :
    (message m).IsIn (((message m).fields.map Prod.fst).zip [status, a, b, c, d, e, f, g, h]) ↔
      status = .string "message" ∧ Message.ofItems? [a, b, c, d, e, f, g, h] = some m := by
  rw [isIn_message_iff]
  simp [Outcome.fields, Message.fields, Message.ofFields?, Message.ofItems?, Json.field?]

/-- An outcome is read from a **list** when the values in it are those of its fields in order. -/
theorem ofJson?_array_eq_some_iff {outcome : Outcome} {items : List Json} :
    ofJson? (.array items) = some outcome ↔
      items.length = outcome.fields.length ∧
        outcome.IsIn ((outcome.fields.map Prod.fst).zip items) := by
  cases outcome with
  | message m =>
    rw [ofJson?_array_eq_message_iff]
    constructor
    · rintro ⟨a, b, c, d, e, f, g, h, rfl, hread⟩
      exact ⟨rfl, isIn_zip_iff.2 ⟨rfl, hread⟩⟩
    · rintro ⟨hlength, hin⟩
      -- A message has nine fields with its status.
      match items, hlength with
      | [status, a, b, c, d, e, f, g, h], _ =>
        obtain ⟨rfl, hread⟩ := isIn_zip_iff.1 hin
        exact ⟨a, b, c, d, e, f, g, h, rfl, hread⟩
  | notProtocol =>
    rw [isIn_notProtocol_iff]
    constructor
    · intro hread
      unfold ofJson? at hread
      split at hread
      · next heq => cases heq
      · obtain ⟨m, -, hm⟩ := Option.map_eq_some_iff.1 hread
        cases hm
      · next heq =>
        cases heq
        exact ⟨rfl, rfl⟩
      · cases hread
    · rintro ⟨hlength, hstatus⟩
      match items, hlength with
      | [status], _ =>
        obtain rfl : status = .string "not_protocol" := Option.some.inj hstatus
        rfl

/-! ## The way there and back -/

/-- The fields of an outcome have **different keys**. -/
theorem nodup_keys (outcome : Outcome) : (outcome.fields.map Prod.fst).Nodup := by
  have hkeys : readKeys.Nodup := by decide
  cases outcome with
  | message m => exact hkeys
  | notProtocol => exact List.nodup_singleton _

/-- The fields of an outcome are in **normal form**. -/
theorem normalised_of_mem {outcome : Outcome} {field : String × Json} (h : field ∈ outcome.fields) :
    normalised field.1 (some field.2) = some field.2 := by
  cases outcome with
  | message m =>
    simp only [Outcome.fields, Message.fields, List.mem_cons, List.not_mem_nil, or_false] at h
    rcases h with rfl | rfl | rfl | rfl | rfl | rfl | rfl | rfl | rfl <;>
      simp [normalised, Json.lowerText, Json.plainLetter, Hex.lowerAscii_encode]
  | notProtocol =>
    obtain rfl := List.mem_singleton.1 h
    rfl

/-- An outcome is **read back** from its fields in any order. -/
theorem isIn_of_perm {outcome : Outcome} (h : fields.Perm outcome.fields) :
    outcome.IsIn fields := by
  intro field hfield
  have hkeys : (fields.map Prod.fst).Nodup :=
    (h.map Prod.fst).nodup_iff.2 outcome.nodup_keys
  rw [(Json.field?_eq_some_iff hkeys).2 (h.mem_iff.2 hfield), normalised_of_mem hfield]

/-- Whether fields are the **same up to normal form** wherever they are read. -/
def ReadAlike (fields fields' : List (String × Json)) : Prop :=
  ∀ key ∈ readKeys,
    normalised key (Json.field? key fields) = normalised key (Json.field? key fields')

/-- Fields that are read alike have the **same** outcomes among them. -/
theorem ReadAlike.isIn_iff (h : ReadAlike fields fields') (outcome : Outcome) :
    outcome.IsIn fields ↔ outcome.IsIn fields' := by
  have hkeys : ∀ field ∈ outcome.fields, field.1 ∈ readKeys := by
    cases outcome with
    | message m => simp [Outcome.fields, Message.fields, readKeys]
    | notProtocol => simp [Outcome.fields, readKeys]
  unfold IsIn
  exact forall₂_congr fun field hfield => by rw [h field.1 (hkeys field hfield)]

/-- Objects that are read alike are read as the **same**. -/
theorem ReadAlike.ofJson?_eq (h : ReadAlike fields fields') :
    ofJson? (.object fields) = ofJson? (.object fields') := by
  refine Option.ext fun outcome => ?_
  rw [ofJson?_object_eq_some_iff, ofJson?_object_eq_some_iff]
  exact h.isIn_iff outcome

/-- A field in front makes no difference where it is not read, or counts for **what was found**
without it. -/
theorem readAlike_cons {key : String} {value : Json}
    (h : key ∈ readKeys → normalised key (some value) = normalised key (Json.field? key fields)) :
    ReadAlike ((key, value) :: fields) fields := by
  intro other hother
  rw [Json.field?]
  split_ifs with heq
  · subst heq
    exact h hother
  · rfl

/-- It makes no difference which of two values that count for the **same** stands in front. -/
theorem readAlike_cons_cons {key : String} {value value' : Json}
    (h : normalised key (some value) = normalised key (some value')) :
    ReadAlike ((key, value) :: fields) ((key, value') :: fields) := by
  intro other _
  rw [Json.field?, Json.field?]
  split_ifs with heq
  · subst heq
    exact h
  · rfl

/-- What makes **no difference** to the reading of an object. -/
structure ObjectLaws : Prop where
  /-- The order of fields with different keys. -/
  order : ∀ fields fields', fields.Perm fields' → (fields.map Prod.fst).Nodup →
    ofJson? (.object fields) = ofJson? (.object fields')
  /-- A field that is not read. -/
  extra : ∀ key value fields, key ∉ readKeys →
    ofJson? (.object ((key, value) :: fields)) = ofJson? (.object fields)
  /-- Whether a receiver is missing or `null`. -/
  receiver : ∀ fields, Json.field? "receiver" fields = none →
    ofJson? (.object (("receiver", .null) :: fields)) = ofJson? (.object fields)
  /-- The case of the payload's digits. -/
  payload : ∀ text text' fields, Text.lowerAscii text = Text.lowerAscii text' →
    ofJson? (.object (("payload", .string text) :: fields))
      = ofJson? (.object (("payload", .string text') :: fields))

/-- Objects are read **up to normal form**. -/
theorem objectLaws : ObjectLaws where
  order fields fields' h hkeys := by
    refine ReadAlike.ofJson?_eq fun key _ => ?_
    rw [Json.field?_of_perm h hkeys]
  extra key value fields h := (readAlike_cons fun hmem => absurd hmem h).ofJson?_eq
  receiver fields h := by
    refine (readAlike_cons fun _ => ?_).ofJson?_eq
    rw [h]
    rfl
  payload text text' fields h := by
    refine (readAlike_cons_cons ?_).ofJson?_eq
    simp [normalised, Json.lowerText, h]

/-- Whether an outcome is **read from** a JSON value. -/
inductive IsReadFrom (outcome : Outcome) : Json → Prop
  /-- Its fields are among those of an object. -/
  | object {fields : List (String × Json)} (h : outcome.IsIn fields) :
      IsReadFrom outcome (.object fields)
  /-- The values of its fields are those of a list, in order and with no others. -/
  | array {items : List Json} (hlength : items.length = outcome.fields.length)
      (h : outcome.IsIn ((outcome.fields.map Prod.fst).zip items)) :
      IsReadFrom outcome (.array items)

/-- An outcome is read from **no other** value. -/
theorem ofJson?_eq_some_iff {json : Json} {outcome : Outcome} :
    ofJson? json = some outcome ↔ outcome.IsReadFrom json := by
  constructor
  · intro h
    cases json with
    | object fields => exact .object (ofJson?_object_eq_some_iff.1 h)
    | array items =>
      obtain ⟨hlength, hin⟩ := ofJson?_array_eq_some_iff.1 h
      exact .array hlength hin
    | _ => cases h
  · rintro (h | ⟨hlength, h⟩)
    · exact ofJson?_object_eq_some_iff.2 h
    · exact ofJson?_array_eq_some_iff.2 ⟨hlength, h⟩

/-- Every outcome **survives** JSON, with its fields in any order and as it is reported; and it is
read from the values that have its fields, up to normal form, and no others. So reading, writing and
reading again gives the same, and objects that differ in what is not normal are read alike. -/
theorem json_roundTrip :
    (∀ outcome : Outcome, ofJson? outcome.toJson = some outcome ∧
      (∀ fields, fields.Perm outcome.fields → ofJson? (.object fields) = some outcome) ∧
      ∀ txid, ofJson? (ParseResult.toJson txid (.ok outcome)) = some outcome) ∧
    (∀ json (outcome : Outcome), ofJson? json = some outcome ↔ outcome.IsReadFrom json) ∧
    (∀ json outcome, ofJson? json = some outcome → ofJson? outcome.toJson = some outcome) ∧
    ObjectLaws := by
  have hperm (outcome : Outcome) (fields : List (String × Json))
      (h : fields.Perm outcome.fields) : ofJson? (.object fields) = some outcome :=
    ofJson?_object_eq_some_iff.2 (isIn_of_perm h)
  refine ⟨fun outcome => ⟨hperm _ _ (.refl _), hperm outcome, fun txid => ?_⟩,
    fun json outcome => ofJson?_eq_some_iff, fun json outcome _ => hperm _ _ (.refl _), objectLaws⟩
  obtain ⟨sorted, hsorted, h⟩ := Json.exists_sortedObject_eq outcome.fields
  rw [ParseResult.toJson, hsorted]
  exact hperm outcome sorted h

/-- A message **without receiver**. -/
def unaddressed : Message where
  txid := "00"
  sender := "1EXoDusjGwvnjZUyKkxZ4UHEf77z6A5S4P"
  receiver := none
  fee := -5
  payload := [0x0a, 0xff]
  carrier := .nullData
  blockHeight := 1
  blockTime := 2

/-- The message's fields **spelled otherwise**: in another order, with one more, no receiver, a
capital digit and the carrier as a key. -/
def unaddressedFields : List (String × Json) :=
  [("block_time", .nat 2), ("note", .bool true), ("payload", .string "0aFf"),
    ("encoding_class", .object [("C", .null)]), ("status", .string "message"),
    ("txid", .string "00"), ("fee", .integer (-5)),
    ("sender", .string "1EXoDusjGwvnjZUyKkxZ4UHEf77z6A5S4P"), ("block_height", .nat 1)]

/-- The message is read from these fields, and from what it is then written as. -/
theorem json_roundTrip_unaddressed :
    ofJson? (.object unaddressedFields) = some (.message unaddressed) ∧
      ofJson? (message unaddressed).toJson = some (.message unaddressed) := by
  obtain ⟨-, hread, hagain, -⟩ := json_roundTrip
  have hfields : Message.ofFields? unaddressedFields = some unaddressed := by decide +kernel
  have hstatus : Json.field? "status" unaddressedFields = some (.string "message") := by
    simp [Json.field?, unaddressedFields]
  have h := (hread _ _).2 (.object (isIn_message_iff.2 ⟨hstatus, hfields⟩))
  exact ⟨h, hagain _ _ h⟩

end Outcome

end OmniLayer
