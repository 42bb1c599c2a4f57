import Mathlib.Data.List.Chain
import Mathlib.Tactic.SplitIfs
import OmniLayer.Node.Error

/-! # Errors that are worded as if there were no transaction

Whether there is no transaction is told by the wording of an error. The wording for an answer that
cannot be read quotes a character of the answer and some numbers, and yet is never taken for it
(`RpcError.isNotFound_deserialisationFailed`): each phrase that is looked for has two characters
side by side that nothing in such a wording can have there. -/

namespace OmniLayer

/-- A text that contains another has its characters one behind the other. -/
theorem Text.infix_of_contains {text piece : String} (h : contains text piece = true) :
    piece.toList <:+: text.toList := by
  unfold contains at h
  generalize piece.toList = cs, text.toList = ds at h ⊢
  induction ds with
  | nil =>
    rw [contains.go, List.isEmpty_iff] at h
    exact h ▸ List.infix_rfl
  | cons d ds ih =>
    rw [contains.go, Bool.or_eq_true] at h
    obtain h | h := h
    · exact (List.isPrefixOf_iff_prefix.1 h).isInfix
    · exact List.infix_cons_iff.2 (.inr (ih h))

/-! ## Characters side by side -/

/-- Whether two characters may stand **side by side** in a wording in which no phrase for a missing
transaction is found: these have a `k` before a `c`, or a dash before a `w`. -/
def MayFollow (c d : Char) : Prop := ¬(c = 'k' ∧ d = 'c') ∧ ¬(c = '-' ∧ d = 'w')

instance (c d : Char) : Decidable (MayFollow c d) := inferInstanceAs (Decidable (_ ∧ _))

/-- Whether **anything** may follow a character. -/
def isPlain (c : Char) : Bool := c != 'k' && c != '-'

/-- Anything may follow a plain character. -/
theorem mayFollow_of_isPlain {c : Char} (h : isPlain c = true) (d : Char) : MayFollow c d := by
  simp only [isPlain, Bool.and_eq_true, bne_iff_ne] at h
  exact ⟨fun heq => h.1 heq.1, fun heq => h.2 heq.1⟩

/-- Plain characters may stand in any order. -/
theorem isChain_of_isPlain {cs : List Char} (h : cs.all isPlain = true) :
    cs.IsChain MayFollow := by
  refine List.Pairwise.isChain (List.pairwise_iff_forall_sublist.2 fun {c d} hsub => ?_)
  exact mayFollow_of_isPlain (List.all_eq_true.1 h c (hsub.subset (by simp))) d

/-- Whether a wording **ends plainly**, if it ends at all. -/
def endsPlainly (cs : List Char) : Bool := cs.getLast?.all isPlain

/-- Plain characters end plainly. -/
theorem endsPlainly_of_isPlain {cs : List Char} (h : cs.all isPlain = true) :
    endsPlainly cs = true :=
  Option.all_eq_true _ _ |>.2 fun c hc => List.all_eq_true.1 h c (List.mem_of_getLast? hc)

/-- A wording that ends plainly may be followed by any other. -/
theorem isChain_append {cs ds : List Char} (hcs : cs.IsChain MayFollow)
    (hlast : endsPlainly cs = true) (hds : ds.IsChain MayFollow) :
    (cs ++ ds).IsChain MayFollow :=
  List.isChain_append.2 ⟨hcs, hds, fun c hc d _ =>
    mayFollow_of_isPlain (Option.all_eq_true _ _ |>.1 hlast c hc) d⟩

/-- Digits of every base are plain. -/
theorem isPlain_toDigits (base n : Nat) : (Nat.toDigits base n).all isPlain = true := by
  have hdigit (d : Nat) : isPlain (Nat.digitChar d) = true := by
    by_cases hlt : d < 16
    · exact (by decide : ∀ d < 16, isPlain (Nat.digitChar d) = true) d hlt
    · have hstar : Nat.digitChar d = '*' := by
        unfold Nat.digitChar
        iterate 16 rw [if_neg (by omega)]
      rw [hstar]
      decide
  have hcore (fuel : Nat) : ∀ n ds, ds.all isPlain = true →
      (Nat.toDigitsCore base fuel n ds).all isPlain = true := by
    induction fuel with
    | zero => exact fun n ds hds => hds
    | succ fuel ih =>
      intro n ds hds
      have hcons : (Nat.digitChar (n % base) :: ds).all isPlain = true := by
        rw [List.all_cons, hdigit, hds, Bool.and_self]
      rw [Nat.toDigitsCore]
      split
      · exact hcons
      · exact ih _ _ hcons
  exact hcore _ n [] rfl

/-- Between quotes, a character stands for itself or is written in plain ones. -/
theorem char_eq_or_isPlain (c : Char) :
    Escape.char '\'' c = [c] ∨ (Escape.char '\'' c).all isPlain = true := by
  unfold Escape.char
  split_ifs with hquote
  · right
    obtain rfl | rfl := hquote
    · decide
    · decide
  · exact .inr (by decide)
  · exact .inr (by decide)
  · exact .inr (by decide)
  · exact .inr (by decide)
  · right
    have hdigits : (Escape.hexDigits c.toNat).all isPlain = true := isPlain_toDigits 16 c.toNat
    rw [List.all_append, List.all_cons, List.all_cons, List.all_cons, hdigits]
    decide
  · exact .inl rfl

/-- The text of a character **between quotes**. -/
theorem toList_quoted_singleton (c : Char) :
    (Escape.quoted '\'' (String.singleton c)).toList = '\'' :: (Escape.char '\'' c ++ ['\'']) := by
  simp [Escape.quoted]

/-- A character between quotes has nothing side by side that a phrase has. -/
theorem isChain_quoted (c : Char) :
    (Escape.quoted '\'' (String.singleton c)).toList.IsChain MayFollow := by
  rw [toList_quoted_singleton]
  obtain hself | hplain := char_eq_or_isPlain c
  · have hbehind : MayFollow c '\'' :=
      ⟨fun h => absurd h.2 (by decide), fun h => absurd h.2 (by decide)⟩
    rw [hself]
    exact .cons_cons (mayFollow_of_isPlain rfl c) (.cons_cons hbehind (.singleton _))
  · refine isChain_of_isPlain ?_
    rw [List.all_cons, List.all_append, hplain]
    rfl

/-- It ends with the quote. -/
theorem endsPlainly_quoted (c : Char) :
    endsPlainly (Escape.quoted '\'' (String.singleton c)).toList = true := by
  rw [endsPlainly, toList_quoted_singleton, ← List.cons_append, List.getLast?_concat]
  rfl

/-! ## The wording for what cannot be read -/

/-- Decimal numbers are plain. -/
theorem isPlain_natText (n : Nat) : (Decimal.natText n).toList.all isPlain = true := by
  rw [Decimal.natText, String.toList_ofList]
  exact isPlain_toDigits 10 n

/-- A wording and what follows it. -/
theorem isChain_toList_append {s t : String} (hs : s.toList.IsChain MayFollow)
    (hlast : endsPlainly s.toList = true) (ht : t.toList.IsChain MayFollow) :
    (s ++ t).toList.IsChain MayFollow := by
  rw [String.toList_append]
  exact isChain_append hs hlast ht

/-- The wording of hexadecimal errors. -/
theorem isChain_hexError : ∀ cause : Hex.HexError, cause.message.toList.IsChain MayFollow
  | .oddLength => by decide +kernel
  | .invalidCharacter c place => by
    show ("Invalid character " ++ Escape.quoted '\'' (String.singleton c) ++ " at position " ++
      Decimal.natText place).toList.IsChain MayFollow
    rw [String.append_assoc, String.append_assoc]
    exact isChain_toList_append (by decide +kernel) (by decide +kernel)
      (isChain_toList_append (isChain_quoted c) (endsPlainly_quoted c)
        (isChain_toList_append (by decide +kernel) (by decide +kernel)
          (isChain_of_isPlain (isPlain_natText place))))

/-- The wording of errors of the serialised form. -/
theorem isChain_wireError : ∀ cause : Wire.WireError, cause.message.toList.IsChain MayFollow
  | .endOfData => by decide +kernel
  | .nonMinimalSize => by decide +kernel
  | .noWitnesses => by decide +kernel
  | .trailingData => by decide +kernel
  | .unknownWitnessFormat flag =>
    isChain_toList_append (s := "unsupported segwit version: ") (by decide +kernel)
      (by decide +kernel) (isChain_of_isPlain (isPlain_natText flag.toNat))
  | .oversized requested => by
    show ("allocation of oversized vector: requested " ++ Decimal.natText requested ++
      ", maximum " ++ Decimal.natText Wire.maxWitnessSpace).toList.IsChain MayFollow
    rw [String.append_assoc, String.append_assoc]
    exact isChain_toList_append (by decide +kernel) (by decide +kernel)
      (isChain_toList_append (isChain_of_isPlain (isPlain_natText requested))
        (endsPlainly_of_isPlain (isPlain_natText requested)) (by decide +kernel))

/-- The wording for what cannot be read. -/
theorem isChain_rawError : ∀ cause : RawError, cause.message.toList.IsChain MayFollow
  | .hex cause =>
    isChain_toList_append (s := "Failed to decode raw transaction hex: ") (by decide +kernel)
      (by decide +kernel) (isChain_hexError cause)
  | .wire cause =>
    isChain_toList_append (s := "Failed to deserialise raw transaction: ") (by decide +kernel)
      (by decide +kernel) (isChain_wireError cause)

/-- **What cannot be read is never taken for missing.** -/
theorem RpcError.isNotFound_deserialisationFailed (cause : RawError) :
    isNotFound (deserialisationFailed cause).message = false := by
  have hchain : (deserialisationFailed cause).message.toList.IsChain MayFollow :=
    isChain_toList_append (s := "Deserialisation failed: ") (by decide +kernel)
      (by decide +kernel) (isChain_rawError cause)
  rw [isNotFound, List.any_eq_false]
  intro phrase hphrase hcontains
  have hpiece : phrase.toList.IsChain MayFollow := hchain.infix (Text.infix_of_contains hcontains)
  simp only [notFoundPhrases, List.mem_cons, List.not_mem_nil, or_false] at hphrase
  obtain rfl | rfl := hphrase
  · exact absurd hpiece (by decide +kernel)
  · exact absurd hpiece (by decide +kernel)

end OmniLayer
