import Mathlib.Algebra.Order.Ring.Nat
import OmniLayer.Carrier.Decision
import OmniLayer.Proofs.Text.Order
import OmniLayer.Proofs.Traversal
import OmniLayer.Sender

/-! # The sender by contributions

Crediting contributions gives every address its capped **total** (`Totals.amount_foldl_credit`), and
a scan of the totals in ascending order keeps the first entry with the largest total so far
(`Totals.isLeader_leading`, `Totals.isLeader_foldl`). So the sender is told by an order-free rule:
all inputs are eligible, and the sender has the largest positive total, with the smallest text among
equals (`contributionSum_eq_ok_iff`). -/

namespace OmniLayer.Sender

variable {params : Params} {active : Activation} {coins : CoinLookup}

/-! ## What an outpoint contributes -/

/-- An outpoint is **eligible** when it names a known coin of a recognised class with a single
address. -/
def Eligible (active : Activation) (coins : CoinLookup) (outpoint : OutPoint) : Prop :=
  ∃ coin, coins outpoint = some coin ∧
    coin.scriptClass.isSingleAddress = true ∧ coin.scriptClass.isAllowed active = true

/-- The classes with a single address are those with a destination. -/
theorem isSingleAddress_iff {scriptClass : ScriptClass} :
    scriptClass.isSingleAddress = true ↔ ∃ d, Destination.ofClass? scriptClass = some d := by
  cases scriptClass <;> simp [ScriptClass.isSingleAddress, Destination.ofClass?]

/-- The address that a coin speaks for is that of its script, if its class is recognised. -/
theorem coinAddress_eq_ok_iff {outpoint : OutPoint} {coin : Output} {address : String} :
    coinAddress params active outpoint coin = .ok address ↔
      coin.scriptClass.isAllowed active = true ∧ params.addressOf? coin.script = some address := by
  rw [coinAddress, Params.addressOf?, Script.destination?, Output.scriptClass]
  cases Destination.ofClass? (Script.classify coin.script) with
  | none =>
    constructor
    · intro h
      cases h
    · rintro ⟨-, h⟩
      cases h
  | some destination =>
    dsimp only
    by_cases hallowed : (Script.classify coin.script).isAllowed active = true
    · rw [if_pos hallowed, Except.ok.injEq, Option.map_some, Option.some_inj]
      exact (and_iff_right hallowed).symm
    · rw [if_neg hallowed]
      constructor
      · intro h
        cases h
      · rintro ⟨h, -⟩
        exact absurd h hallowed

/-- The coin at an outpoint is the one that the lookup finds. -/
@[simp] theorem coin_eq_ok_iff {outpoint : OutPoint} {coin : Output} :
    Sender.coin coins outpoint = .ok coin ↔ coins outpoint = some coin := by
  rw [Sender.coin]
  cases coins outpoint with
  | none =>
    constructor
    · intro h
      cases h
    · intro h
      cases h
  | some c => rw [Except.ok.injEq, Option.some_inj]

/-- An outpoint contributes the value of its coin under the coin's address. -/
theorem contribution_eq_ok_iff {outpoint : OutPoint} {c : String × UInt64} :
    contribution params active coins outpoint = .ok c ↔
      ∃ coin, coins outpoint = some coin ∧ coin.scriptClass.isAllowed active = true ∧
        params.addressOf? coin.script = some c.1 ∧ coin.value = c.2 := by
  obtain ⟨address, value⟩ := c
  rw [contribution, bind_eq_ok_iff]
  constructor
  · rintro ⟨coin, hcoin, h⟩
    obtain ⟨a, ha, hpair⟩ := bind_eq_ok_iff.1 h
    cases hpair
    exact ⟨coin, coin_eq_ok_iff.1 hcoin, (coinAddress_eq_ok_iff.1 ha).1,
      (coinAddress_eq_ok_iff.1 ha).2, rfl⟩
  · rintro ⟨coin, hcoin, hallowed, haddress, rfl⟩
    exact ⟨coin, coin_eq_ok_iff.2 hcoin,
      bind_eq_ok_iff.2 ⟨address, coinAddress_eq_ok_iff.2 ⟨hallowed, haddress⟩, rfl⟩⟩

/-- An outpoint is eligible when it contributes. -/
theorem eligible_iff (params : Params) {outpoint : OutPoint} :
    Eligible active coins outpoint ↔ ∃ c, contribution params active coins outpoint = .ok c := by
  constructor
  · rintro ⟨coin, hcoin, hsingle, hallowed⟩
    obtain ⟨d, hd⟩ := isSingleAddress_iff.1 hsingle
    refine ⟨(d.toAddress params.addressVersions, coin.value), ?_⟩
    refine contribution_eq_ok_iff.2 ⟨coin, hcoin, hallowed, ?_, rfl⟩
    exact Option.map_eq_some_iff.2 ⟨d, hd, rfl⟩
  · rintro ⟨c, hc⟩
    obtain ⟨coin, hcoin, hallowed, haddress, -⟩ := contribution_eq_ok_iff.1 hc
    obtain ⟨d, hd, -⟩ := Option.map_eq_some_iff.1 haddress
    exact ⟨coin, hcoin, isSingleAddress_iff.2 ⟨d, hd⟩, hallowed⟩

/-! ## Totals -/

/-- The coins of a script with an address that outpoints spend. -/
def spentBy (params : Params) (coins : CoinLookup) (outpoints : List OutPoint)
    (address : String) : List Output :=
  (outpoints.filterMap coins).filter fun coin => params.addressOf? coin.script = some address

/-- The **total** of an address over outpoints: the values of its coins, at most the largest
word. -/
def total (params : Params) (coins : CoinLookup) (outpoints : List OutPoint)
    (address : String) : Nat :=
  min ((spentBy params coins outpoints address).map fun coin => coin.value.toNat).sum wordMax

/-- What contributions credit to an address, without a cap. -/
def credited (contributions : List (String × UInt64)) (address : String) : Nat :=
  ((contributions.filter (·.1 = address)).map (·.2.toNat)).sum

/-- A contribution adds its value to what its address is credited with. -/
theorem credited_cons (c : String × UInt64) (contributions : List (String × UInt64))
    (address : String) :
    credited (c :: contributions) address
      = (if c.1 = address then c.2.toNat else 0) + credited contributions address := by
  by_cases h : c.1 = address
  · simp [credited, h]
  · simp [credited, h]

namespace Totals

/-- What an address has in entries, nothing if it has no entry. -/
def amountIn (address : String) (entries : List (String × Nat)) : Nat :=
  (FinMap.find? address entries).getD 0

/-- The **amount** of an address among totals. -/
def amount (totals : Totals) (address : String) : Nat := amountIn address totals.entries

/-- An entry in front has the amount of its own address, and no other. -/
theorem amountIn_cons (address : String) (entry : String × Nat) (rest : List (String × Nat)) :
    amountIn address (entry :: rest)
      = if entry.1 = address then entry.2 else amountIn address rest := by
  rw [amountIn, FinMap.find?]
  by_cases h : entry.1 = address
  · rw [if_pos h, if_pos h]
    rfl
  · rw [if_neg h, if_neg h]
    rfl

/-- An address in front of all entries has nothing yet. -/
theorem amountIn_eq_zero {address : String} {entries : List (String × Nat)}
    (h : ∀ e ∈ entries, address < e.1) : amountIn address entries = 0 := by
  induction entries with
  | nil => rfl
  | cons entry rest ih =>
    obtain ⟨hentry, hrest⟩ := List.forall_mem_cons.1 h
    rw [amountIn_cons, if_neg (ne_of_gt hentry), ih hrest]

/-- A credit adds to the amount of its address, up to the cap, and leaves the others alone. -/
theorem amountIn_creditIn (c : String × UInt64) (address : String) {entries : List (String × Nat)}
    (h : entries.Pairwise fun a b => a.1 < b.1) :
    amountIn address (creditIn c entries)
      = if c.1 = address then raise (amountIn address entries) c.2
        else amountIn address entries := by
  induction entries with
  | nil => exact amountIn_cons address (c.1, raise 0 c.2) []
  | cons entry rest ih =>
    obtain ⟨hfirst, hrest⟩ := List.pairwise_cons.1 h
    rw [creditIn]
    split
    · -- The entry is the one of the address.
      rename_i heq
      rw [amountIn_cons, amountIn_cons, heq]
      split <;> rfl
    · rename_i hne
      split
      · -- The address is smaller than all of the entries, and has none.
        rename_i hlt
        rw [amountIn_cons]
        split
        · rename_i haddress
          rw [← haddress, amountIn_eq_zero]
          intro e he
          rcases List.mem_cons.1 he with rfl | he
          · exact hlt
          · exact lt_trans hlt (hfirst e he)
        · rfl
      · -- The address belongs behind the entry.
        rw [amountIn_cons, amountIn_cons, ih hrest]
        by_cases hentry : entry.1 = address
        · rw [if_pos hentry, if_pos hentry, if_neg fun hc => hne (hc.trans hentry.symm)]
        · rw [if_neg hentry, if_neg hentry]

/-- A credit adds to the amount of its address, up to the cap, and leaves the others alone. -/
theorem amount_credit (totals : Totals) (c : String × UInt64) (address : String) :
    (totals.credit c).amount address
      = if c.1 = address then min (totals.amount address + c.2.toNat) wordMax
        else totals.amount address :=
  amountIn_creditIn c address totals.ascending

/-- Crediting contributions in turn gives each address the **capped sum** of its own. -/
theorem amount_foldl_credit (contributions : List (String × UInt64)) (totals : Totals)
    (address : String) (hcap : totals.amount address ≤ wordMax) :
    (contributions.foldl credit totals).amount address
      = min (totals.amount address + credited contributions address) wordMax := by
  -- The totals change with each credit; a sum that was capped once stays at the cap.
  induction contributions generalizing totals with
  | nil => exact (min_eq_left hcap).symm
  | cons c contributions ih =>
    have hstep := amount_credit totals c address
    rw [List.foldl_cons, credited_cons]
    by_cases h : c.1 = address
    · rw [if_pos h] at hstep ⊢
      rw [ih _ (hstep ▸ min_le_right _ _), hstep]
      omega
    · rw [if_neg h] at hstep ⊢
      rw [ih _ (hstep ▸ hcap), hstep, Nat.zero_add]

/-- The entries are the addresses that have an entry, with their amounts. -/
theorem mem_entries_iff {totals : Totals} {address : String} {n : Nat} :
    (address, n) ∈ totals.entries ↔ FinMap.find? address totals.entries = some n := by
  refine FinMap.mem_iff_find? (List.pairwise_map.2 (totals.ascending.imp fun h => ?_))
  exact ne_of_lt h

end Totals

/-- What eligible outpoints contribute under an address are the values of its coins. -/
theorem credited_eq_sum_spentBy {outpoints : List OutPoint} {contributions : List (String × UInt64)}
    (h : List.Forall₂ (fun o c => contribution params active coins o = .ok c) outpoints
      contributions) (address : String) :
    credited contributions address
      = ((spentBy params coins outpoints address).map fun coin => coin.value.toNat).sum := by
  induction h with
  | nil => rfl
  | @cons outpoint c outpoints contributions hc _ ih =>
    obtain ⟨coin, hcoin, -, haddress, hvalue⟩ := contribution_eq_ok_iff.1 hc
    rw [credited_cons, ih, spentBy, spentBy, List.filterMap_cons, hcoin]
    by_cases hown : c.1 = address
    · rw [if_pos hown]
      simp [haddress, hown, hvalue]
    · rw [if_neg hown]
      simp [haddress, hown]

/-! ## The scan -/

namespace Totals

/-- The **leader** of entries has a positive total. None has a larger one, and none with the same
total has a smaller address; without a leader all totals are zero. -/
def IsLeader (entries : List (String × Nat)) : Option (String × Nat) → Prop
  | none => ∀ e ∈ entries, e.2 = 0
  | some best => best ∈ entries ∧ 0 < best.2 ∧
    ∀ e ∈ entries, e.2 < best.2 ∨ e.2 = best.2 ∧ best.1 ≤ e.1

/-- A step of the scan leads the entries before it and one **behind all of them**. Nothing compares
the addresses: what has the total of the leader comes later, and so is larger. -/
theorem isLeader_leading {done : List (String × Nat)} {best : Option (String × Nat)}
    {entry : String × Nat} (h : IsLeader done best) (hlater : ∀ e ∈ done, e.1 < entry.1) :
    IsLeader (done ++ [entry]) (leading best entry) := by
  have hmem (e : String × Nat) : e ∈ done ++ [entry] ↔ e ∈ done ∨ e = entry := by
    rw [List.mem_append, List.mem_singleton]
  cases best with
  | none =>
    by_cases hpos : 0 < entry.2
    · rw [show leading none entry = some entry from if_pos hpos]
      refine ⟨(hmem _).2 (Or.inr rfl), hpos, fun e he => ?_⟩
      rcases (hmem e).1 he with he | rfl
      · exact Or.inl ((h e he).symm ▸ hpos)
      · exact Or.inr ⟨rfl, le_refl _⟩
    · rw [show leading none entry = none from if_neg hpos]
      intro e he
      rcases (hmem e).1 he with he | rfl
      · exact h e he
      · exact Nat.eq_zero_of_not_pos hpos
  | some best =>
    obtain ⟨hbest, hpos, hall⟩ := h
    by_cases hlt : best.2 < entry.2
    · rw [show leading (some best) entry = some entry from if_pos hlt]
      refine ⟨(hmem _).2 (Or.inr rfl), lt_trans hpos hlt, fun e he => ?_⟩
      rcases (hmem e).1 he with he | rfl
      · rcases hall e he with hlt' | ⟨heq, -⟩
        · exact Or.inl (lt_trans hlt' hlt)
        · exact Or.inl (heq ▸ hlt)
      · exact Or.inr ⟨rfl, le_refl _⟩
    · rw [show leading (some best) entry = some best from if_neg hlt]
      refine ⟨(hmem _).2 (Or.inl hbest), hpos, fun e he => ?_⟩
      rcases (hmem e).1 he with he | rfl
      · exact hall e he
      · rcases Nat.lt_or_eq_of_le (Nat.le_of_not_lt hlt) with hlt' | heq
        · exact Or.inl hlt'
        · exact Or.inr ⟨heq, le_of_lt (hlater best hbest)⟩

/-- A **scan** over further entries in ascending order leads all of them. -/
theorem isLeader_foldl {done entries : List (String × Nat)} {best : Option (String × Nat)}
    (h : IsLeader done best) (hascending : (done ++ entries).Pairwise fun a b => a.1 < b.1) :
    IsLeader (done ++ entries) (entries.foldl leading best) := by
  induction entries generalizing done best with
  | nil => rwa [List.append_nil]
  | cons entry entries ih =>
    have hlater : ∀ e ∈ done, e.1 < entry.1 := fun e he =>
      (List.pairwise_append.1 hascending).2.2 e he entry List.mem_cons_self
    rw [List.append_cons] at hascending
    have hstep := ih (isLeader_leading h hlater) hascending
    rwa [List.append_assoc] at hstep

/-- Totals are led by what their scan ends with. -/
theorem isLeader_leader? (totals : Totals) : IsLeader totals.entries totals.leader? := by
  have hnone : IsLeader [] none := List.forall_mem_nil _
  exact isLeader_foldl hnone totals.ascending

end Totals

/-! ## The largest total -/

/-- An address is the **largest** of totals when its own is positive and no other is larger, or as
large under a smaller text. -/
def IsLargest (total : String → Nat) (address : String) : Prop :=
  0 < total address ∧
    ∀ other, total other < total address ∨ total other = total address ∧ address ≤ other

/-- Totals have one largest address at most. -/
theorem IsLargest.unique {total : String → Nat} {a b : String} (ha : IsLargest total a)
    (hb : IsLargest total b) : a = b := by
  rcases ha.2 b with hlt | ⟨heq, hab⟩
  · rcases hb.2 a with hlt' | ⟨heq', -⟩
    · exact absurd hlt (lt_asymm hlt')
    · exact absurd heq' (Nat.ne_of_gt hlt)
  · rcases hb.2 a with hlt' | ⟨-, hba⟩
    · exact absurd heq (Nat.ne_of_gt hlt')
    · exact le_antisymm hab hba

/-- When all outpoints contribute, the sender is the **largest** of the totals; without one, all
totals are zero. -/
theorem contributionSum_of_contributions {outpoints : List OutPoint}
    {contributions : List (String × UInt64)} (hne : outpoints ≠ [])
    (h : outpoints.mapM (contribution params active coins) = .ok contributions) :
    (∃ address, contributionSum params active coins outpoints = .ok address ∧
        IsLargest (total params coins outpoints) address) ∨
      (contributionSum params active coins outpoints = .error (.unresolvableSender .noValue) ∧
        ∀ address, total params coins outpoints address = 0) := by
  set totals := contributions.foldl Totals.credit .empty with htotals
  have hamount (address : String) :
      totals.amount address = total params coins outpoints address := by
    rw [htotals, Totals.amount_foldl_credit _ _ _ (Nat.zero_le _),
      credited_eq_sum_spentBy (mapM_eq_ok_iff.1 h), total]
    exact congrArg (min · wordMax) (Nat.zero_add _)
  have hleader := totals.isLeader_leader?
  rw [contributionSum, if_neg hne, h]
  dsimp only [bind, Except.bind]
  rw [← htotals]
  cases hresult : totals.leader? with
  | none =>
    rw [hresult] at hleader
    refine Or.inr ⟨rfl, fun address => ?_⟩
    rw [← hamount, Totals.amount, Totals.amountIn]
    cases hfind : FinMap.find? address totals.entries with
    | none => rfl -- an address without an entry was credited nothing
    | some t => exact hleader _ (Totals.mem_entries_iff.2 hfind)
  | some entry =>
    obtain ⟨address, t⟩ := entry
    rw [hresult] at hleader
    obtain ⟨hmem, hpos, hall⟩ := hleader
    have ht : total params coins outpoints address = t := by
      rw [← hamount, Totals.amount, Totals.amountIn, Totals.mem_entries_iff.1 hmem]
      rfl
    refine Or.inl ⟨address, rfl, ht.symm ▸ hpos, fun other => ?_⟩
    rw [ht, ← hamount, Totals.amount, Totals.amountIn]
    cases hfind : FinMap.find? other totals.entries with
    | none => exact Or.inl hpos
    | some t' => exact hall _ (Totals.mem_entries_iff.2 hfind)

/-- A total is positive when one of its coins is worth something. -/
theorem total_pos_iff {outpoints : List OutPoint} {address : String} :
    0 < total params coins outpoints address ↔ ∃ o ∈ outpoints, ∃ coin, coins o = some coin ∧
      params.addressOf? coin.script = some address ∧ coin.value ≠ 0 := by
  have hvalue (value : UInt64) : 0 < value.toNat ↔ value ≠ 0 := by
    rw [Nat.pos_iff_ne_zero, ne_eq, ne_eq, ← UInt64.toNat_inj]
    rfl
  have hmem (coin : Output) : coin ∈ spentBy params coins outpoints address ↔
      (∃ o ∈ outpoints, coins o = some coin) ∧ params.addressOf? coin.script = some address := by
    rw [spentBy, List.mem_filter, List.mem_filterMap, decide_eq_true_iff]
  rw [total, lt_min_iff, and_iff_left (by decide), List.sum_pos_iff_exists_pos_nat]
  constructor
  · rintro ⟨_, hx, hpos⟩
    obtain ⟨coin, hcoin, rfl⟩ := List.mem_map.1 hx
    obtain ⟨⟨o, ho, hoc⟩, haddress⟩ := (hmem coin).1 hcoin
    exact ⟨o, ho, coin, hoc, haddress, (hvalue _).1 hpos⟩
  · rintro ⟨o, ho, coin, hoc, haddress, hne⟩
    exact ⟨_, List.mem_map_of_mem ((hmem coin).2 ⟨⟨o, ho, hoc⟩, haddress⟩), (hvalue _).2 hne⟩

/-- The **sender** is the address with the largest total, all outpoints being eligible. -/
theorem contributionSum_eq_ok_iff {outpoints : List OutPoint} {address : String} :
    contributionSum params active coins outpoints = .ok address ↔
      (∀ o ∈ outpoints, Eligible active coins o) ∧
        IsLargest (total params coins outpoints) address := by
  constructor
  · intro h
    have hne : outpoints ≠ [] := by
      rintro rfl
      cases h
    have hcontributions : ∃ cs, outpoints.mapM (contribution params active coins) = .ok cs := by
      rw [contributionSum, if_neg hne] at h
      obtain ⟨cs, hcs, -⟩ := bind_eq_ok_iff.1 h
      exact ⟨cs, hcs⟩
    refine ⟨fun o ho => (eligible_iff params).2 (exists_mapM_eq_ok_iff.1 hcontributions o ho), ?_⟩
    obtain ⟨cs, hcs⟩ := hcontributions
    rcases contributionSum_of_contributions hne hcs with ⟨a, ha, hlargest⟩ | ⟨herror, -⟩
    · rw [h] at ha
      cases ha
      exact hlargest
    · rw [h] at herror
      cases herror
  · rintro ⟨heligible, hlargest⟩
    obtain ⟨o, ho, -⟩ := total_pos_iff.1 hlargest.1
    obtain ⟨cs, hcs⟩ := exists_mapM_eq_ok_iff.2 fun o ho =>
      (eligible_iff params).1 (heligible o ho)
    rcases contributionSum_of_contributions (List.ne_nil_of_mem ho) hcs with
      ⟨a, ha, hlargest'⟩ | ⟨-, hzero⟩
    · rw [ha, hlargest'.unique hlargest]
    · exact absurd (hzero address) (Nat.ne_of_gt hlargest.1)

/-! ## The order of the inputs -/

/-- There is a sender when there are outpoints, all are eligible, and one of their coins is worth
something. -/
theorem exists_contributionSum_eq_ok_iff {outpoints : List OutPoint} :
    (∃ address, contributionSum params active coins outpoints = .ok address) ↔
      outpoints ≠ [] ∧ (∀ o ∈ outpoints, Eligible active coins o) ∧
        ∃ o ∈ outpoints, ∃ coin, coins o = some coin ∧ coin.value ≠ 0 := by
  constructor
  · rintro ⟨address, h⟩
    obtain ⟨heligible, hlargest⟩ := contributionSum_eq_ok_iff.1 h
    obtain ⟨o, ho, coin, hoc, -, hne⟩ := total_pos_iff.1 hlargest.1
    exact ⟨List.ne_nil_of_mem ho, heligible, o, ho, coin, hoc, hne⟩
  · rintro ⟨hne, heligible, o, ho, coin, hoc, hvalue⟩
    obtain ⟨cs, hcs⟩ := exists_mapM_eq_ok_iff.2 fun o ho =>
      (eligible_iff params).1 (heligible o ho)
    rcases contributionSum_of_contributions hne hcs with ⟨a, ha, -⟩ | ⟨-, hzero⟩
    · exact ⟨a, ha⟩
    · obtain ⟨c, hc⟩ := (eligible_iff params).1 (heligible o ho)
      obtain ⟨coin', hoc', -, haddress, -⟩ := contribution_eq_ok_iff.1 hc
      obtain rfl : coin = coin' := Option.some.inj (hoc.symm.trans hoc')
      exact absurd (hzero c.1)
        (Nat.ne_of_gt (total_pos_iff.2 ⟨o, ho, coin, hoc, haddress, hvalue⟩))

/-- Totals do not depend on the order of the outpoints. -/
theorem total_perm {outpoints outpoints' : List OutPoint} (h : outpoints.Perm outpoints') :
    total params coins outpoints = total params coins outpoints' := by
  funext address
  have hspent := ((h.filterMap coins).filter
    fun coin => params.addressOf? coin.script = some address).map fun coin => coin.value.toNat
  rw [total, total, spentBy, spentBy, hspent.sum_nat]

/-- Whether there is a sender, and which, does not depend on the order of the outpoints. -/
theorem toOption_contributionSum_perm {outpoints outpoints' : List OutPoint}
    (h : outpoints.Perm outpoints') :
    (contributionSum params active coins outpoints).toOption
      = (contributionSum params active coins outpoints').toOption := by
  have hok {x : Except ParseError String} (a : String) : x.toOption = some a ↔ x = .ok a := by
    cases x <;> simp [Except.toOption]
  refine Option.ext fun address => ?_
  rw [hok, hok, contributionSum_eq_ok_iff, contributionSum_eq_ok_iff, total_perm h]
  exact and_congr_left fun _ => forall_congr' fun o => by rw [h.mem_iff]

/-- **The contribution rule.** There is a sender exactly when there are inputs, all spend recognised
coins with a single address, and one of the coins is worth something. The sender is the address of
a coin, no address has a larger total, and none with the same total has smaller bytes. The order of
the inputs plays no part. -/
theorem contributionSum_largest_total (params : Params) (coins : CoinLookup) (height : UInt32)
    (tx : Transaction) :
    ((∃ sender, contributionSum params (params.activation.activeAt height) coins tx.previous
          = .ok sender) ↔
        tx.inputs ≠ [] ∧
          (∀ o ∈ tx.previous, Eligible (params.activation.activeAt height) coins o) ∧
          ∃ o ∈ tx.previous, ∃ coin, coins o = some coin ∧ coin.value ≠ 0) ∧
      (∀ sender, contributionSum params (params.activation.activeAt height) coins tx.previous
          = .ok sender →
        (∃ o ∈ tx.previous, ∃ coin, coins o = some coin ∧
          params.addressOf? coin.script = some sender) ∧
        ∀ other, total params coins tx.previous other ≤ total params coins tx.previous sender ∧
          (total params coins tx.previous other = total params coins tx.previous sender →
            Text.utf8 sender ≤ Text.utf8 other)) ∧
      ∀ tx' : Transaction, tx.inputs.Perm tx'.inputs →
        (contributionSum params (params.activation.activeAt height) coins tx'.previous).toOption
          = (contributionSum params (params.activation.activeAt height) coins
              tx.previous).toOption := by
  refine ⟨?_, fun sender h => ?_, fun tx' h => ?_⟩
  · rw [exists_contributionSum_eq_ok_iff, Transaction.previous, ne_eq, ne_eq, List.map_eq_nil_iff]
  · obtain ⟨-, hpos, hlargest⟩ := contributionSum_eq_ok_iff.1 h
    obtain ⟨o, ho, coin, hoc, haddress, -⟩ := total_pos_iff.1 hpos
    refine ⟨⟨o, ho, coin, hoc, haddress⟩, fun other => ?_⟩
    rcases hlargest other with hlt | ⟨heq, hle⟩
    · exact ⟨le_of_lt hlt, fun heq => absurd heq (Nat.ne_of_lt hlt)⟩
    · exact ⟨le_of_eq heq, fun _ => Text.utf8_le_iff.2 hle⟩
  · exact toOption_contributionSum_perm (h.symm.map Input.previous)

/-- Three coins of two addresses, whose totals both reach the largest word, one going past it. -/
def cappedCoins : CoinLookup := fun outpoint =>
  [⟨0xffffffffffffffff, Script.payToScriptHash (FixedBytes.zero 20)⟩,
    ⟨0xffffffffffffffff, Script.payToPubkeyHash (FixedBytes.zero 20)⟩,
    ⟨1, Script.payToPubkeyHash (FixedBytes.zero 20)⟩][outpoint.vout.toNat]?

/-- A transaction that spends the three coins. -/
def cappedTransaction : Transaction where
  version := 2
  inputs := [0, 1, 2].map fun vout => ⟨⟨⟨FixedBytes.zero 32⟩, vout⟩, [], 0, []⟩
  outputs := []
  lockTime := 0

/-- Totals that reach the cap are equal, and the smaller text is the sender in either order of the
inputs. -/
theorem contributionSum_largest_total_capped :
    (contributionSum Params.bitcoin (Params.bitcoin.activation.activeAt 400000) cappedCoins
        cappedTransaction.previous).toOption = some "1111111111111111111114oLvT2" ∧
      (contributionSum Params.bitcoin (Params.bitcoin.activation.activeAt 400000) cappedCoins
        { cappedTransaction with inputs := cappedTransaction.inputs.reverse }.previous).toOption
        = some "1111111111111111111114oLvT2" := by
  have hsender : (contributionSum Params.bitcoin (Params.bitcoin.activation.activeAt 400000)
      cappedCoins cappedTransaction.previous).toOption = some "1111111111111111111114oLvT2" := by
    decide +kernel
  have hreverse := (contributionSum_largest_total Params.bitcoin cappedCoins 400000
    cappedTransaction).2.2 { cappedTransaction with inputs := cappedTransaction.inputs.reverse }
    (List.reverse_perm _).symm
  exact ⟨hsender, hreverse.trans hsender⟩

end OmniLayer.Sender
