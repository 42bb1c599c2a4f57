import OmniLayer.Proofs.Destination
import OmniLayer.Receiver

/-! # The receiver among the outputs

The receiver is found in one scan that skips one change output and lets later candidates overwrite
earlier ones. What the scan ends with is the last candidate once the first that pays the sender is
taken out (`receiver_foldl_step`), so the receiver is a function of the addresses that the outputs
name, and the cases in which it is the sender itself can be told
(`identify?_last_beside_change`). -/

namespace OmniLayer.Receiver

variable {params : Params} {active : Activation} {sender : String}

/-! ## The scan -/

/-- A scan ends with the **last** of the candidates that it does not skip, or with the receiver it
had before. -/
theorem receiver_foldl_step (candidates : List String) (scan : Scan) :
    (candidates.foldl (Scan.step sender) scan).receiver
      = ((if scan.changeSkipped then candidates else candidates.erase sender).getLast?).or
          scan.receiver := by
  -- The flag decides whether the sender is still to be taken out of what is left.
  induction candidates generalizing scan with
  | nil => simp
  | cons candidate rest ih =>
    obtain ⟨skipped, receiver⟩ := scan
    have hlast (l : List String) : l.getLast?.or (some candidate)
        = (candidate :: l).getLast?.or receiver := by
      rw [List.getLast?_cons]
      cases l.getLast? <;> rfl
    rw [List.foldl_cons, ih]
    cases skipped with
    | true => simpa [Scan.step] using hlast rest
    | false =>
      by_cases hchange : candidate = sender
      · simp [Scan.step, hchange]
      · simpa [Scan.step, hchange, List.erase_cons_tail] using hlast (rest.erase sender)

/-- A single candidate is the receiver, whether it pays the sender or not. -/
@[simp] theorem ofCandidates?_singleton (sender candidate : String) :
    ofCandidates? sender [candidate] = some candidate := rfl

/-- Of no candidates or several, the **last** is the receiver once the first that pays the sender is
taken out. -/
theorem ofCandidates?_eq_getLast? {candidates : List String} (h : candidates.length ≠ 1) :
    ofCandidates? sender candidates = (candidates.erase sender).getLast? := by
  unfold ofCandidates?
  split
  · exact absurd rfl h
  · simp [receiver_foldl_step]

/-- There is no receiver exactly when there are **no candidates**. -/
@[simp] theorem ofCandidates?_eq_none_iff {candidates : List String} :
    ofCandidates? sender candidates = none ↔ candidates = [] := by
  by_cases hone : candidates.length = 1
  · obtain ⟨candidate, rfl⟩ := List.length_eq_one_iff.1 hone
    simp
  · rw [ofCandidates?_eq_getLast? hone, List.getLast?_eq_none_iff, List.erase_eq_nil_iff]
    -- A list that is the sender alone has one member.
    constructor
    · rintro (h | h)
      · exact h
      · exact absurd (congrArg List.length h) hone
    · exact Or.inl

/-- A candidate beside which there is none, or one of the sender, is the **receiver**. -/
theorem ofCandidates?_eq_some {sender address : String} {front back : List String}
    (h : front ++ back = [] ∨ front ++ back = [sender]) :
    ofCandidates? sender (front ++ address :: back) = some address := by
  rcases h with h | h
  · obtain ⟨rfl, rfl⟩ := List.append_eq_nil_iff.1 h
    rfl
  · have hseveral : (front ++ address :: back).length ≠ 1 := by
      have := congrArg List.length h
      simp only [List.length_append, List.length_cons, List.length_nil] at this ⊢
      omega
    rw [ofCandidates?_eq_getLast? hseveral]
    rcases List.append_eq_singleton_iff.1 h with ⟨rfl, rfl⟩ | ⟨rfl, rfl⟩
    · -- The candidate may pay the sender itself; then the change is what is left.
      change ([address, sender].erase sender).getLast? = some address
      by_cases heq : address = sender
      · rw [heq, List.erase_cons_head]
        rfl
      · rw [List.erase_cons_tail (by simpa using heq), List.erase_cons_head]
        rfl
    · change ([sender, address].erase sender).getLast? = some address
      rw [List.erase_cons_head]
      rfl

/-- Once one of the sender is taken out, the sender is the last exactly when it was the last and
stood **earlier** too. -/
theorem getLast?_erase_eq_self_iff {candidates : List String} :
    (candidates.erase sender).getLast? = some sender ↔
      ∃ front, candidates = front ++ [sender] ∧ sender ∈ front := by
  constructor
  · intro h
    have hmem : sender ∈ candidates := List.mem_of_mem_erase (List.mem_of_getLast? h)
    obtain ⟨front, back, hfront, rfl, herase⟩ := List.exists_erase_eq hmem
    rw [herase] at h
    -- What is in front of the first one is not the sender, so the last one is behind it.
    cases hback : back.getLast? with
    | none =>
      rw [List.getLast?_append, hback, Option.none_or] at h
      exact absurd (List.mem_of_getLast? h) hfront
    | some last =>
      rw [List.getLast?_append, hback, Option.some_or, Option.some_inj] at h
      obtain ⟨init, rfl⟩ := List.getLast?_eq_some_iff.1 hback
      exact ⟨front ++ sender :: init, by simp [h], by simp⟩
  · rintro ⟨front, rfl, hfront⟩
    rw [List.erase_append_left _ hfront, List.getLast?_append]
    rfl

/-! ## The addresses that outputs name -/

/-- The addresses that recognised outputs other than Exodus **name**, in output order. -/
def named (params : Params) (active : Activation) (outputs : List Output) : List String :=
  (outputs.filter fun output =>
    output.scriptClass.isAllowed active && !params.isExodus output.script).filterMap fun output =>
      params.addressOf? output.script

/-- A script has an address exactly when it is of a class with a **single address**. -/
theorem isSingleAddress_iff_addressOf? {script : Script} :
    (Script.classify script).isSingleAddress = true ↔ (params.addressOf? script).isSome = true := by
  unfold Params.addressOf? Script.destination?
  cases Script.classify script <;> simp [ScriptClass.isSingleAddress, Destination.ofClass?]

/-- The candidates are the addresses that the outputs name. -/
theorem candidates_eq_named (outputs : List Output) :
    candidates params active outputs = named params active outputs := by
  rw [candidates, named, List.filterMap_filter]
  refine List.filterMap_congr fun output _ => ?_
  unfold candidate?
  by_cases hsingle : output.scriptClass.isSingleAddress = true
  · simp [hsingle]
  · -- Without a single address there is no address at all.
    have hnone : params.addressOf? output.script = none := by
      rw [← Option.not_isSome_iff_eq_none, ← isSingleAddress_iff_addressOf?]
      exact hsingle
    simp [hnone]

/-! ## The rule -/

/-- **The receiver is the last address named beside one change output.** There is none only if no
address is named; a single one is the receiver, even if it is the sender's; of several, the first of
the sender is taken out and the last of the rest is the receiver. So the sender itself is the
receiver exactly when nobody else is named, or when the last address is the sender's and another
stands before it. One address beside at most one of the sender is the receiver. -/
theorem identify?_last_beside_change (params : Params) (active : Activation) (sender : String)
    (outputs : List Output) :
    (identify? params active sender outputs = none ↔ named params active outputs = []) ∧
      (∀ address, named params active outputs = [address] →
        identify? params active sender outputs = some address) ∧
      ((named params active outputs).length ≠ 1 →
        identify? params active sender outputs
          = ((named params active outputs).erase sender).getLast?) ∧
      (identify? params active sender outputs = some sender ↔
        (named params active outputs ≠ [] ∧
            ∀ address ∈ named params active outputs, address = sender) ∨
          ∃ front, named params active outputs = front ++ [sender] ∧ sender ∈ front) ∧
      ∀ address, named params active outputs = [address] ∨
          named params active outputs = [sender, address] ∨
          named params active outputs = [address, sender] →
        identify? params active sender outputs = some address := by
  unfold identify?
  rw [candidates_eq_named]
  set named := named params active outputs
  refine ⟨ofCandidates?_eq_none_iff, fun address h => ?_, ofCandidates?_eq_getLast?, ?_,
    fun address h => ?_⟩
  · rw [h, ofCandidates?_singleton]
  · by_cases hone : named.length = 1
    · obtain ⟨address, hnamed⟩ := List.length_eq_one_iff.1 hone
      simp [hnamed, List.append_eq_singleton_iff, eq_comm]
    · rw [ofCandidates?_eq_getLast? hone, getLast?_erase_eq_self_iff]
      refine ⟨Or.inr, ?_⟩
      rintro (⟨hne, hall⟩ | h)
      · -- Several entries that are all the sender end with one that has others before it.
        have hlast : named.getLast? = some sender :=
          (List.getLast?_eq_some_getLast hne).trans (congrArg some (hall _ (List.getLast_mem hne)))
        obtain ⟨front, hnamed⟩ := List.getLast?_eq_some_iff.1 hlast
        have hfront : front ≠ [] := by
          rintro rfl
          simp [hnamed] at hone
        have hmem : front.head hfront ∈ named := by simp [hnamed]
        exact ⟨front, hnamed, hall _ hmem ▸ List.head_mem hfront⟩
      · exact h
  · rcases h with h | h | h
    · rw [h, ofCandidates?_singleton]
    · have hfront : [sender] ++ [] = [] ∨ [sender] ++ [] = [sender] := Or.inr rfl
      exact h ▸ ofCandidates?_eq_some hfront
    · have hback : [] ++ [sender] = [] ∨ [] ++ [sender] = [sender] := Or.inr rfl
      exact h ▸ ofCandidates?_eq_some hback

end OmniLayer.Receiver
