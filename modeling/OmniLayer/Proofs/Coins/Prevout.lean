import OmniLayer.Command.Error
import OmniLayer.Proofs.Text.Decimal
import OmniLayer.Proofs.Text.Hex
import OmniLayer.Proofs.Text.Pieces
import OmniLayer.Proofs.Traversal

/-! # Written coins

A text is read as a coin exactly when it consists of four fields that are spelled well
(`WrittenCoin.IsWellSpelled`), and the coin is the one that the fields denote
(`WrittenCoin.Denotes`), however they spell it. Any other text is refused for its first fault
(`Prevout.IsRefused`): a wrong number of fields before all, then the identifier, and then the other
fields in turn. -/

namespace OmniLayer

/-! ## Fields -/

/-- The **fields** of a written coin. -/
structure WrittenCoin where
  /-- The transaction. -/
  txid : String
  /-- The place among its outputs. -/
  vout : String
  /-- The value. -/
  value : String
  /-- The script. -/
  script : String

namespace WrittenCoin

/-- The fields in order. -/
def fields (written : WrittenCoin) : List String :=
  [written.txid, written.vout, written.value, written.script]

/-- The fields with **colons** between them. -/
def text (written : WrittenCoin) : String :=
  written.txid ++ ":" ++ written.vout ++ ":" ++ written.value ++ ":" ++ written.script

/-- Whether a text is **cut** into the fields: they make it up, and there is no colon in them. -/
def MakesUp (written : WrittenCoin) (text : String) : Prop :=
  text = written.text ∧ ∀ field ∈ written.fields, ':' ∉ field.toList

/-- Whether the fields **denote** an outpoint and a coin: hexadecimal digits in either case, numbers
as numerals. -/
structure Denotes (written : WrittenCoin) (outpoint : OutPoint) (coin : Output) : Prop where
  /-- The first is the transaction. -/
  txid : Text.lowerAscii written.txid = outpoint.txid.text
  /-- The second is the place. -/
  vout : Decimal.IsNumeral written.vout outpoint.vout.toNat
  /-- The third is the value. -/
  value : Decimal.IsNumeral written.value coin.value.toNat
  /-- The fourth is the script. -/
  script : Text.lowerAscii written.script = Hex.encode coin.script

/-- Whether the fields are spelled **well**. -/
structure IsWellSpelled (written : WrittenCoin) : Prop where
  /-- The first has sixty-four hexadecimal digits. -/
  txid : Txid.IsTxid written.txid
  /-- The second is a 32-bit word. -/
  vout : Decimal.IsWord UInt32.size written.vout
  /-- The third is a 64-bit word. -/
  value : Decimal.IsWord UInt64.size written.value
  /-- The fourth is hexadecimal. -/
  script : Hex.IsHex written.script

/-- An outpoint and a coin as they are **written**. -/
def ofCoin (outpoint : OutPoint) (coin : Output) : WrittenCoin where
  txid := outpoint.txid.text
  vout := Decimal.natText outpoint.vout.toNat
  value := Decimal.natText coin.value.toNat
  script := Hex.encode coin.script

variable {written : WrittenCoin} {text : String}

/-- What is written denotes **what it was written for**. -/
theorem denotes_ofCoin (outpoint : OutPoint) (coin : Output) :
    (ofCoin outpoint coin).Denotes outpoint coin where
  txid := Hex.lowerAscii_encode _
  vout := Decimal.isNumeral_natText _
  value := Decimal.isNumeral_natText _
  script := Hex.lowerAscii_encode _

/-- Fields that denote a coin are spelled well. -/
theorem Denotes.isWellSpelled {outpoint : OutPoint} {coin : Output}
    (h : written.Denotes outpoint coin) : written.IsWellSpelled where
  txid := Txid.exists_ofText?_eq_some_iff.1 ⟨_, Txid.ofText?_eq_some_iff.2 h.txid⟩
  vout := ⟨_, outpoint.vout.toNat_lt, h.vout⟩
  value := ⟨_, coin.value.toNat_lt, h.value⟩
  script := Hex.exists_decode_eq_ok_iff.1 ⟨_, Hex.decode_eq_ok_iff.2 h.script⟩

/-- Fields that are spelled well denote **some coin**. -/
theorem IsWellSpelled.exists_denotes (h : written.IsWellSpelled) :
    ∃ outpoint coin, written.Denotes outpoint coin := by
  obtain ⟨txid, htxid⟩ := Txid.exists_ofText?_eq_some_iff.2 h.txid
  obtain ⟨vout, hvout⟩ := Decimal.exists_uint32?_eq_some_iff.2 h.vout
  obtain ⟨value, hvalue⟩ := Decimal.exists_uint64?_eq_some_iff.2 h.value
  obtain ⟨script, hscript⟩ := Hex.exists_decode_eq_ok_iff.2 h.script
  exact ⟨⟨txid, vout⟩, ⟨value, script⟩, Txid.ofText?_eq_some_iff.1 htxid,
    Decimal.uint32?_eq_some_iff.1 hvout, Decimal.uint64?_eq_some_iff.1 hvalue,
    Hex.decode_eq_ok_iff.1 hscript⟩

/-- No character of a hexadecimal text is a colon. -/
theorem not_mem_of_isDigit {field : String} (h : ∀ c ∈ field.toList, Hex.isDigit c = true) :
    ':' ∉ field.toList :=
  fun hmem => absurd (h ':' hmem) (by decide)

/-- No character of a numeral is a colon. -/
theorem not_mem_of_isNumeral {field : String} {n : Nat} (h : Decimal.IsNumeral field n) :
    ':' ∉ field.toList := by
  intro hmem
  rcases h with ⟨-, hall, -⟩ | ⟨⟨-, hall, -⟩, htext⟩
  · exact absurd (hall ':' hmem) (by decide)
  · rw [htext] at hmem
    rcases List.mem_cons.1 hmem with hplus | hrest
    · exact absurd hplus (by decide)
    · exact absurd (hall ':' hrest) (by decide)

/-- Well spelled fields **make up** the text with colons between them. -/
theorem IsWellSpelled.makesUp (h : written.IsWellSpelled) : written.MakesUp written.text := by
  obtain ⟨htxid, ⟨m, -, hvout⟩, ⟨n, -, hvalue⟩, hscript⟩ := h
  refine ⟨rfl, ?_⟩
  simp only [fields, List.forall_mem_cons]
  exact ⟨not_mem_of_isDigit htxid.2, not_mem_of_isNumeral hvout, not_mem_of_isNumeral hvalue,
    not_mem_of_isDigit hscript.2, fun _ h => absurd h List.not_mem_nil⟩

/-- Fields make up a text when it is **cut** into them. -/
theorem makesUp_iff : written.MakesUp text ↔
    Text.splitOn ':' text.toList = written.fields.map String.toList := by
  rw [Text.splitOn_eq_iff, MakesUp, List.forall_mem_map, ← String.toList_inj]
  have htext : written.text.toList = [':'].intercalate (written.fields.map String.toList) := by
    simp [WrittenCoin.text, fields, List.intercalate]
  rw [htext]
  exact and_congr_right fun _ => (and_iff_right (List.cons_ne_nil _ _)).symm

/-- A text is made up of four fields when it has **three colons**. -/
theorem exists_makesUp_iff :
    (∃ written : WrittenCoin, written.MakesUp text) ↔ text.toList.count ':' = 3 := by
  have hlength := Text.length_splitOn ':' text.toList
  constructor
  · rintro ⟨written, h⟩
    rw [makesUp_iff.1 h] at hlength
    exact (Nat.succ.inj hlength).symm
  · intro h
    rw [h, List.length_eq_four] at hlength
    obtain ⟨txid, vout, value, script, hsplit⟩ := hlength
    refine ⟨⟨String.ofList txid, String.ofList vout, String.ofList value, String.ofList script⟩,
      makesUp_iff.2 ?_⟩
    simp [hsplit, fields]

end WrittenCoin

/-! ## Reading -/

namespace Prevout

variable {written : WrittenCoin} {text : String} {outpoint : OutPoint} {coin : Output}

/-- A text of four fields is read **field by field**. -/
theorem ofText_of_makesUp (h : written.MakesUp text) :
    ofText text = ofFields written.txid written.vout written.value written.script := by
  unfold ofText
  rw [WrittenCoin.makesUp_iff.1 h, List.map_map]
  simp [WrittenCoin.fields]

/-- A text of **fewer or more** fields is refused. -/
theorem ofText_of_count_ne (h : text.toList.count ':' ≠ 3) : ofText text = .error .fieldCount := by
  unfold ofText
  split
  · next txid vout value script heq =>
    have hlength := congrArg List.length heq
    rw [List.length_map, Text.length_splitOn] at hlength
    exact absurd (Nat.succ.inj hlength) h
  · rfl

/-- Fields are read as **what they denote**. -/
theorem ofFields_eq_ok_iff :
    ofFields written.txid written.vout written.value written.script = .ok (outpoint, coin) ↔
      written.Denotes outpoint coin := by
  have hread : ofFields written.txid written.vout written.value written.script
        = .ok (outpoint, coin) ↔
      Txid.ofText? written.txid = some outpoint.txid ∧
        Decimal.uint32? written.vout = some outpoint.vout ∧
        Decimal.uint64? written.value = some coin.value ∧
        Hex.decode written.script = .ok coin.script := by
    unfold ofFields
    cases Txid.ofText? written.txid with
    | none => simp [throw, throwThe, MonadExceptOf.throw]
    | some txid =>
      cases Decimal.uint32? written.vout with
      | none => simp [throw, throwThe, MonadExceptOf.throw]
      | some vout =>
        cases Decimal.uint64? written.value with
        | none => simp [throw, throwThe, MonadExceptOf.throw]
        | some value =>
          cases Hex.decode written.script with
          | error e => simp [throw, throwThe, MonadExceptOf.throw]
          | ok script =>
            obtain ⟨txid', vout'⟩ := outpoint
            obtain ⟨value', script'⟩ := coin
            simp [Pure.pure, Except.pure, and_assoc]
  rw [hread, Txid.ofText?_eq_some_iff, Decimal.uint32?_eq_some_iff, Decimal.uint64?_eq_some_iff,
    Hex.decode_eq_ok_iff]
  exact ⟨fun h => ⟨h.1, h.2.1, h.2.2.1, h.2.2.2⟩, fun h => ⟨h.txid, h.vout, h.value, h.script⟩⟩

/-- Whether a text is **refused** with an error: for the number of its fields, else for the first
field that is not spelled well. -/
inductive IsRefused (text : String) : CommandError → Prop
  /-- There are not three colons. -/
  | fieldCount (h : text.toList.count ':' ≠ 3) : IsRefused text (.prevout text .fieldCount)
  /-- The first field is no identifier, whatever stands in the others. -/
  | txid {written : WrittenCoin} (hmade : written.MakesUp text)
      (h : ¬Txid.IsTxid written.txid) : IsRefused text (.node (.invalidTxid written.txid))
  /-- The second field is no 32-bit word. -/
  | vout {written : WrittenCoin} (hmade : written.MakesUp text)
      (htxid : Txid.IsTxid written.txid)
      (h : ¬Decimal.IsWord UInt32.size written.vout) : IsRefused text (.prevout text .vout)
  /-- The third field is no 64-bit word. -/
  | value {written : WrittenCoin} (hmade : written.MakesUp text)
      (htxid : Txid.IsTxid written.txid)
      (hvout : Decimal.IsWord UInt32.size written.vout)
      (h : ¬Decimal.IsWord UInt64.size written.value) : IsRefused text (.prevout text .value)
  /-- The fourth field is not hexadecimal. -/
  | script {written : WrittenCoin} (hmade : written.MakesUp text)
      (htxid : Txid.IsTxid written.txid)
      (hvout : Decimal.IsWord UInt32.size written.vout)
      (hvalue : Decimal.IsWord UInt64.size written.value) (h : ¬Hex.IsHex written.script) :
      IsRefused text (.prevout text .script)

/-- A text is read as the coin that its fields **denote**. -/
theorem parse_eq_ok_iff : parse text = .ok (outpoint, coin) ↔
    ∃ written : WrittenCoin, written.MakesUp text ∧ written.Denotes outpoint coin := by
  have hparse : parse text = .ok (outpoint, coin) ↔ ofText text = .ok (outpoint, coin) := by
    rw [parse]
    cases ofText text <;> simp [Except.mapError]
  rw [hparse]
  by_cases hcount : text.toList.count ':' = 3
  · obtain ⟨written, hmade⟩ := WrittenCoin.exists_makesUp_iff.2 hcount
    rw [ofText_of_makesUp hmade, ofFields_eq_ok_iff]
    -- Other fields that make up the text are read as the same, so they denote the same.
    refine ⟨fun h => ⟨written, hmade, h⟩, fun ⟨other, hother, h⟩ => ?_⟩
    rw [← ofFields_eq_ok_iff, ← ofText_of_makesUp hmade, ofText_of_makesUp hother,
      ofFields_eq_ok_iff]
    exact h
  · rw [ofText_of_count_ne hcount]
    refine iff_of_false (fun h => by cases h) fun ⟨written, hmade, _⟩ => ?_
    exact hcount (WrittenCoin.exists_makesUp_iff.1 ⟨written, hmade⟩)

/-- A refused text **fails** with the error for which it is refused. -/
theorem IsRefused.parse_eq {e : CommandError} (h : IsRefused text e) : parse text = .error e := by
  have hnone {α : Type} {x : Option α} (h : ¬∃ a, x = some a) : x = none :=
    Option.eq_none_iff_forall_ne_some.2 fun a ha => h ⟨a, ha⟩
  cases h with
  | fieldCount h =>
    rw [parse, ofText_of_count_ne h]
    rfl
  | txid hmade h =>
    rw [← Txid.exists_ofText?_eq_some_iff] at h
    rw [parse, ofText_of_makesUp hmade, ofFields, hnone h]
    rfl
  | vout hmade htxid h =>
    obtain ⟨txid, htxid⟩ := Txid.exists_ofText?_eq_some_iff.2 htxid
    rw [← Decimal.exists_uint32?_eq_some_iff] at h
    rw [parse, ofText_of_makesUp hmade, ofFields, htxid, hnone h]
    rfl
  | value hmade htxid hvout h =>
    obtain ⟨txid, htxid⟩ := Txid.exists_ofText?_eq_some_iff.2 htxid
    obtain ⟨vout, hvout⟩ := Decimal.exists_uint32?_eq_some_iff.2 hvout
    rw [← Decimal.exists_uint64?_eq_some_iff] at h
    rw [parse, ofText_of_makesUp hmade, ofFields, htxid, hvout, hnone h]
    rfl
  | script hmade htxid hvout hvalue h =>
    obtain ⟨txid, htxid⟩ := Txid.exists_ofText?_eq_some_iff.2 htxid
    obtain ⟨vout, hvout⟩ := Decimal.exists_uint32?_eq_some_iff.2 hvout
    obtain ⟨value, hvalue⟩ := Decimal.exists_uint64?_eq_some_iff.2 hvalue
    rw [← Hex.exists_decode_eq_ok_iff] at h
    rw [parse, ofText_of_makesUp hmade, ofFields, htxid, hvout, hvalue]
    cases hscript : Hex.decode _ with
    | error e => rfl
    | ok script => exact absurd ⟨script, hscript⟩ h

/-- A text whose fields are not spelled well is **refused**. -/
theorem exists_isRefused
    (h : ¬∃ written : WrittenCoin, written.MakesUp text ∧ written.IsWellSpelled) :
    ∃ e, IsRefused text e := by
  -- The first test that fails is the reason.
  by_cases hcount : text.toList.count ':' = 3
  case neg => exact ⟨_, .fieldCount hcount⟩
  obtain ⟨written, hmade⟩ := WrittenCoin.exists_makesUp_iff.2 hcount
  by_cases htxid : Txid.IsTxid written.txid
  case neg => exact ⟨_, .txid hmade htxid⟩
  by_cases hvout : Decimal.IsWord UInt32.size written.vout
  case neg => exact ⟨_, .vout hmade htxid hvout⟩
  by_cases hvalue : Decimal.IsWord UInt64.size written.value
  case neg => exact ⟨_, .value hmade htxid hvout hvalue⟩
  by_cases hscript : Hex.IsHex written.script
  case neg => exact ⟨_, .script hmade htxid hvout hvalue hscript⟩
  exact absurd ⟨written, hmade, htxid, hvout, hvalue, hscript⟩ h

/-- A text is read when its fields are **spelled well**, and else refused for its first fault. -/
theorem parse_spec (text : String) :
    ((∃ read, parse text = .ok read) ↔
      ∃ written : WrittenCoin, written.MakesUp text ∧ written.IsWellSpelled) ∧
      ∀ e, parse text = .error e ↔ IsRefused text e := by
  refine exists_eq_ok_iff_and_eq_error_iff ?_ (fun e h => h.parse_eq) ?_
  · rintro ⟨written, hmade, h⟩
    obtain ⟨outpoint, coin, hdenotes⟩ := h.exists_denotes
    exact ⟨(outpoint, coin), parse_eq_ok_iff.2 ⟨written, hmade, hdenotes⟩⟩
  · by_cases h : ∃ written : WrittenCoin, written.MakesUp text ∧ written.IsWellSpelled
    · exact Or.inl h
    · exact Or.inr (exists_isRefused h)

/-- How a text is **read**. -/
structure ReadsExactly (text : String) : Prop where
  /-- It is read when it has four fields that are spelled well. -/
  accepted_iff : (∃ read, parse text = .ok read) ↔
    ∃ written : WrittenCoin, written.MakesUp text ∧ written.IsWellSpelled
  /-- It is read as a coin when its fields denote that coin. -/
  ok_iff : ∀ outpoint coin, parse text = .ok (outpoint, coin) ↔
    ∃ written : WrittenCoin, written.MakesUp text ∧ written.Denotes outpoint coin
  /-- It is refused for its first fault. -/
  error_iff : ∀ e, parse text = .error e ↔ IsRefused text e
  /-- A wrong number of fields is reported as wrong data. -/
  fieldCount : text.toList.count ':' ≠ 3 → (parse text).mapError CommandError.message
    = .error ("Invalid data: Invalid prevout '" ++ text ++ "': " ++ "wrong number of fields" ++
        " (expected txid:vout:value:script_hex)")
  /-- A wrong identifier is reported as the node's, whatever stands in the other fields. -/
  txid : ∀ written : WrittenCoin, written.MakesUp text → ¬Txid.IsTxid written.txid →
    (parse text).mapError CommandError.message
      = .error ("RPC error: Invalid txid: " ++ written.txid)

/-- Every coin is **read back** from what it is written as, and from any other fields that denote
it. Every text is read as the coin that its four fields denote, or refused for the first fault in
them. -/
theorem parse_exact :
    (∀ outpoint coin, parse (WrittenCoin.ofCoin outpoint coin).text = .ok (outpoint, coin)) ∧
      (∀ (written : WrittenCoin) outpoint coin, written.Denotes outpoint coin →
        parse written.text = .ok (outpoint, coin)) ∧
      ∀ text, ReadsExactly text := by
  have hdenotes (written : WrittenCoin) (outpoint : OutPoint) (coin : Output)
      (h : written.Denotes outpoint coin) : parse written.text = .ok (outpoint, coin) :=
    parse_eq_ok_iff.2 ⟨written, h.isWellSpelled.makesUp, h⟩
  refine ⟨fun outpoint coin => ?_, hdenotes, fun text => ?_⟩
  · exact hdenotes _ _ _ (WrittenCoin.denotes_ofCoin outpoint coin)
  · refine ⟨(parse_spec text).1, fun outpoint coin => parse_eq_ok_iff, (parse_spec text).2, ?_, ?_⟩
    · intro h
      rw [(IsRefused.fieldCount h).parse_eq]
      rfl
    · intro written hmade h
      rw [(IsRefused.txid hmade h).parse_eq]
      rfl

/-- Capital letters, a sign and leading zeros make no difference. -/
theorem parse_exact_spelling :
    parse ("00000000000000000000000000000000000000000000000000000000000000aB:+01:007:")
      = .ok (⟨⟨⟨0xab :: List.replicate 31 0, rfl⟩⟩, 1⟩, ⟨7, []⟩) := by
  refine ((parse_exact.2.2 _).ok_iff _ _).2
    ⟨⟨"00000000000000000000000000000000000000000000000000000000000000aB", "+01", "007", ""⟩,
      ⟨rfl, by decide⟩, ⟨by decide, ?_, ?_, by decide⟩⟩
  · exact .signed ⟨List.cons_ne_nil '0' ['1'], List.all_eq_true.1 rfl, rfl⟩ rfl
  · exact .plain ⟨List.cons_ne_nil '0' ['0', '7'], List.all_eq_true.1 rfl, rfl⟩

end Prevout

end OmniLayer
