import Roshambo.Bank.Accounts
import Roshambo.Proofs.Amount
import Roshambo.Proofs.Outcome
import Roshambo.Proofs.SortedMap

namespace Roshambo

namespace Payout

def total (payouts : List Payout) : Nat := (payouts.map (·.amount.toNat)).sum

def owed (payouts : List Payout) (address : Address) : Nat :=
  total (payouts.filter fun p => p.recipient = address)

@[simp] lemma total_nil : total [] = 0 := rfl

@[simp] lemma total_cons (p : Payout) (payouts : List Payout) :
    total (p :: payouts) = p.amount.toNat + total payouts := rfl

lemma sum?_eq_some_iff {payouts : List Payout} {t : Amount} :
    Amount.sum? (payouts.map (·.amount)) = some t ↔ t.toNat = total payouts := by
  rw [Amount.sum?_eq_some_iff, List.map_map]
  rfl

lemma sum?_of_lt {payouts : List Payout} (h : total payouts < UInt64.size) :
    ∃ t, Amount.sum? (payouts.map (·.amount)) = some t ∧ t.toNat = total payouts := by
  have hmap : (payouts.map (·.amount)).map Amount.toNat = payouts.map (·.amount.toNat) := by
    rw [List.map_map]
    rfl
  rw [total, ← hmap] at h ⊢
  exact Amount.sum?_of_lt h

lemma owed_cons (p : Payout) (payouts : List Payout) (address : Address) :
    owed (p :: payouts) address = (if p.recipient = address then p.amount.toNat else 0) + owed payouts address := by
  by_cases h : p.recipient = address <;> simp [owed, h]

lemma owed_le_total (payouts : List Payout) (address : Address) : owed payouts address ≤ total payouts := by
  induction payouts with
  | nil => exact Nat.le_refl _
  | cons p rest ih =>
    rw [owed_cons, total_cons]
    split <;> omega

end Payout

namespace Accounts

abbrev Balances := SortedMap Address Amount

def balancesTotal (balances : Balances) : Nat := (balances.entries.map (·.2.toNat)).sum

def supply (accounts : Accounts) : Nat := accounts.pool.toNat + balancesTotal accounts.balances

lemma balanceIn_insert (balances : Balances) (k k' : Address) (v : Amount) :
    balanceIn (balances.insert k v) k' = if k' = k then v else balanceIn balances k' := by
  rw [balanceIn, SortedMap.get?_insert]
  split <;> rfl

lemma balancesTotal_eq (balances : Balances) (k : Address) :
    balancesTotal balances = (balanceIn balances k).toNat + balancesTotal (balances.erase k) := by
  cases h : balances.get? k with
  | none => simp [balanceIn, h, SortedMap.erase_of_get?_eq_none h]
  | some v =>
    have hsum := ((SortedMap.perm_erase h).map (·.2.toNat)).sum_nat
    simpa [balancesTotal, balanceIn, h] using hsum

lemma balancesTotal_insert (balances : Balances) (k : Address) (v : Amount) :
    balancesTotal (balances.insert k v) + (balanceIn balances k).toNat = balancesTotal balances + v.toNat := by
  have hbefore := balancesTotal_eq balances k
  have hafter : balancesTotal (balances.insert k v) = v.toNat + balancesTotal (balances.erase k) := by
    simpa [balancesTotal] using ((balances.perm_insert k v).map (·.2.toNat)).sum_nat
  omega

lemma orOverflow_eq_ok_iff {what : String} {amount : Option Amount} {a : Amount} :
    orOverflow what amount = .ok a ↔ amount = some a := by
  cases amount <;> simp [orOverflow]

lemma orOverflow_eq_error_iff {what : String} {amount : Option Amount} {e : LedgerError} :
    orOverflow what amount = .error e ↔ amount = none ∧ e = .overflow what := by
  cases amount <;> simp [orOverflow, eq_comm]

variable {accounts after : Accounts}

lemma mintPool_eq_ok_iff {amount : Amount} :
    accounts.mintPool amount = .ok after ↔
      after.pool.toNat = accounts.pool.toNat + amount.toNat ∧ after = { accounts with pool := after.pool } := by
  simp only [mintPool, bind_eq_ok_iff, orOverflow_eq_ok_iff, Amount.add?_eq_some_iff]
  constructor
  · rintro ⟨pool, hpool, h⟩
    obtain rfl := Except.ok.inj h
    exact ⟨hpool, rfl⟩
  · rintro ⟨hpool, h⟩
    exact ⟨after.pool, hpool, congrArg Except.ok h.symm⟩

lemma mint_eq_ok {recipient : Address} {amount : Amount} (h : accounts.mint recipient amount = .ok after) :
    ∃ updated, updated.toNat = (accounts.balance recipient).toNat + amount.toNat ∧
      after = { accounts with balances := accounts.balances.insert recipient updated } := by
  simp only [mint, bind_eq_ok_iff, orOverflow_eq_ok_iff, Amount.add?_eq_some_iff] at h
  obtain ⟨updated, hupdated, h⟩ := h
  exact ⟨updated, hupdated, (Except.ok.inj h).symm⟩

lemma mint_pool {recipient : Address} {amount : Amount} (h : accounts.mint recipient amount = .ok after) :
    after.pool = accounts.pool := by
  obtain ⟨_, _, rfl⟩ := mint_eq_ok h
  rfl

lemma deposit_eq_ok {payer : Address} {amount : Amount} (h : accounts.deposit payer amount = .ok after) :
    ∃ remaining, (accounts.balance payer).toNat = remaining.toNat + amount.toNat ∧
      after.pool.toNat = accounts.pool.toNat + amount.toNat ∧
      after = { accounts with pool := after.pool, balances := accounts.balances.insert payer remaining } := by
  simp only [deposit] at h
  split at h
  · rename_i remaining hremaining
    simp only [bind_eq_ok_iff, orOverflow_eq_ok_iff, Amount.add?_eq_some_iff] at h
    obtain ⟨pool, hpool, h⟩ := h
    obtain rfl := Except.ok.inj h
    exact ⟨remaining, Amount.sub?_eq_some_iff.mp hremaining, hpool, rfl⟩
  · cases h

lemma pool_deposit {payer : Address} {amount : Amount} (h : accounts.deposit payer amount = .ok after) :
    after.pool.toNat = accounts.pool.toNat + amount.toNat := by
  obtain ⟨_, _, hpool, _⟩ := deposit_eq_ok h
  exact hpool

lemma credit_eq_ok_iff {balances balances' : Balances} {p : Payout} :
    credit balances p = .ok balances' ↔ ∃ updated, balances' = balances.insert p.recipient updated ∧
      updated.toNat = (balanceIn balances p.recipient).toNat + p.amount.toNat := by
  simp only [credit, bind_eq_ok_iff, orOverflow_eq_ok_iff, Amount.add?_eq_some_iff]
  constructor
  · rintro ⟨updated, hupdated, h⟩
    exact ⟨updated, (Except.ok.inj h).symm, hupdated⟩
  · rintro ⟨updated, rfl, hupdated⟩
    exact ⟨updated, hupdated, rfl⟩

lemma credit_eq_error_iff {balances : Balances} {p : Payout} {e : LedgerError} :
    credit balances p = .error e ↔ e = .overflow s!"balance of {p.recipient}" ∧
      UInt64.size ≤ (balanceIn balances p.recipient).toNat + p.amount.toNat := by
  simp only [credit, bind_eq_error_iff, orOverflow_eq_error_iff, Amount.add?_eq_none_iff]
  constructor
  · rintro (⟨hfull, he⟩ | ⟨_, _, h⟩)
    · exact ⟨he, hfull⟩
    · cases h
  · rintro ⟨he, hfull⟩
    exact Or.inl ⟨hfull, he⟩

lemma balanceIn_credit {balances balances' : Balances} {p : Payout} (h : credit balances p = .ok balances')
    (address : Address) : (balanceIn balances' address).toNat =
      (balanceIn balances address).toNat + if p.recipient = address then p.amount.toNat else 0 := by
  obtain ⟨updated, rfl, hupdated⟩ := credit_eq_ok_iff.mp h
  rw [balanceIn_insert]
  by_cases ha : p.recipient = address
  · simp [← ha, hupdated]
  · simp [ha, Ne.symm ha]

lemma balanceIn_credits {payouts : List Payout} {balances balances' : Balances}
    (h : payouts.foldlM credit balances = .ok balances') (address : Address) :
    (balanceIn balances' address).toNat = (balanceIn balances address).toNat + Payout.owed payouts address := by
  induction payouts generalizing balances with
  | nil =>
    obtain rfl := Except.ok.inj h
    rfl
  | cons p rest ih =>
    rw [List.foldlM_cons, bind_eq_ok_iff] at h
    obtain ⟨middle, hmiddle, h⟩ := h
    rw [ih h, balanceIn_credit hmiddle, Payout.owed_cons, Nat.add_assoc]

lemma balancesTotal_credit {balances balances' : Balances} {p : Payout} (h : credit balances p = .ok balances') :
    balancesTotal balances' = balancesTotal balances + p.amount.toNat := by
  obtain ⟨updated, rfl, hupdated⟩ := credit_eq_ok_iff.mp h
  have htotal := balancesTotal_insert balances p.recipient updated
  omega

lemma balancesTotal_credits {payouts : List Payout} {balances balances' : Balances}
    (h : payouts.foldlM credit balances = .ok balances') :
    balancesTotal balances' = balancesTotal balances + Payout.total payouts := by
  induction payouts generalizing balances with
  | nil =>
    obtain rfl := Except.ok.inj h
    rfl
  | cons p rest ih =>
    rw [List.foldlM_cons, bind_eq_ok_iff] at h
    obtain ⟨middle, hmiddle, h⟩ := h
    rw [ih h, balancesTotal_credit hmiddle, Payout.total_cons, Nat.add_assoc]

lemma listed_credits {payouts : List Payout} {balances balances' : Balances}
    (h : payouts.foldlM credit balances = .ok balances') (address : Address) :
    (balances'.get? address).isSome ↔ (balances.get? address).isSome ∨ address ∈ payouts.map (·.recipient) := by
  induction payouts generalizing balances with
  | nil =>
    obtain rfl := Except.ok.inj h
    simp
  | cons p rest ih =>
    rw [List.foldlM_cons, bind_eq_ok_iff] at h
    obtain ⟨middle, hmiddle, h⟩ := h
    obtain ⟨updated, rfl, _⟩ := credit_eq_ok_iff.mp hmiddle
    rw [ih h, SortedMap.get?_insert, List.map_cons, List.mem_cons]
    by_cases ha : address = p.recipient <;> simp [ha]

lemma credits_eq_error {payouts : List Payout} {balances : Balances} {e : LedgerError}
    (h : payouts.foldlM credit balances = .error e) :
    ∃ p ∈ payouts, e = .overflow s!"balance of {p.recipient}" ∧
      UInt64.size ≤ (balanceIn balances p.recipient).toNat + Payout.owed payouts p.recipient := by
  induction payouts generalizing balances with
  | nil => cases h
  | cons p rest ih =>
    rw [List.foldlM_cons, bind_eq_error_iff] at h
    rcases h with h | ⟨middle, hmiddle, h⟩
    · obtain ⟨he, hfull⟩ := credit_eq_error_iff.mp h
      refine ⟨p, List.mem_cons_self, he, ?_⟩
      rw [Payout.owed_cons, if_pos rfl]
      omega
    · obtain ⟨q, hq, he, hfull⟩ := ih h
      refine ⟨q, List.mem_cons_of_mem _ hq, he, ?_⟩
      rw [balanceIn_credit hmiddle] at hfull
      rw [Payout.owed_cons]
      omega

lemma payOut_eq_ok {payouts : List Payout} (h : accounts.payOut payouts = .ok after) :
    accounts.pool.toNat = after.pool.toNat + Payout.total payouts ∧
      payouts.foldlM credit accounts.balances = .ok after.balances ∧ after.owner = accounts.owner := by
  simp only [payOut, bind_eq_ok_iff, orOverflow_eq_ok_iff, Payout.sum?_eq_some_iff] at h
  obtain ⟨total, htotal, h⟩ := h
  split at h
  · rename_i pool hpool
    rw [Amount.sub?_eq_some_iff, htotal] at hpool
    obtain ⟨balances, hbalances, h⟩ := bind_eq_ok_iff.mp h
    obtain rfl := Except.ok.inj h
    exact ⟨hpool, hbalances, rfl⟩
  · cases h

lemma supply_payOut {payouts : List Payout} (h : accounts.payOut payouts = .ok after) :
    after.supply = accounts.supply := by
  obtain ⟨hpool, hbalances, _⟩ := payOut_eq_ok h
  have htotal := balancesTotal_credits hbalances
  simp only [supply]
  omega

lemma payOut_of_pool {payouts : List Payout} (h : Payout.total payouts ≤ accounts.pool.toNat) :
    ∃ pool, accounts.payOut payouts = do
      let balances ← payouts.foldlM credit accounts.balances
      return { accounts with pool := pool, balances := balances } := by
  have hfit : Payout.total payouts < UInt64.size := Nat.lt_of_le_of_lt h accounts.pool.toNat_lt
  obtain ⟨total, hsum, htotal⟩ := Payout.sum?_of_lt hfit
  cases hsub : accounts.pool.sub? total with
  | none =>
    rw [Amount.sub?_eq_none_iff] at hsub
    omega
  | some pool =>
    refine ⟨pool, ?_⟩
    simp only [payOut, hsum, orOverflow, ok_bind, hsub]

lemma payOut_eq_error {payouts : List Payout} {e : LedgerError} (hpool : Payout.total payouts ≤ accounts.pool.toNat)
    (h : accounts.payOut payouts = .error e) :
    ∃ p ∈ payouts, e = .overflow s!"balance of {p.recipient}" ∧
      UInt64.size ≤ (accounts.balance p.recipient).toNat + Payout.owed payouts p.recipient := by
  obtain ⟨pool, hpay⟩ := payOut_of_pool hpool
  rw [hpay, bind_eq_error_iff] at h
  rcases h with h | ⟨_, _, h⟩
  · exact credits_eq_error h
  · cases h

lemma payOut_ok_iff {payouts : List Payout} : (∃ after, accounts.payOut payouts = .ok after) ↔
    Payout.total payouts ≤ accounts.pool.toNat ∧
      ∀ p ∈ payouts, (accounts.balance p.recipient).toNat + Payout.owed payouts p.recipient < UInt64.size := by
  constructor
  · rintro ⟨after, h⟩
    obtain ⟨hpool, hbalances, _⟩ := payOut_eq_ok h
    refine ⟨by omega, fun p _ => ?_⟩
    rw [balance, ← balanceIn_credits hbalances]
    exact Amount.toNat_lt _
  · rintro ⟨hpool, hfit⟩
    cases h : accounts.payOut payouts with
    | ok after => exact ⟨after, rfl⟩
    | error e =>
      obtain ⟨p, hp, _, hfull⟩ := payOut_eq_error hpool h
      exact absurd (hfit p hp) (Nat.not_lt.mpr hfull)

lemma payOut_of_supply {payouts : List Payout} (hpool : Payout.total payouts ≤ accounts.pool.toNat)
    (hsupply : accounts.supply < UInt64.size) : ∃ after, accounts.payOut payouts = .ok after := by
  refine payOut_ok_iff.mpr ⟨hpool, fun p _ => ?_⟩
  have howed := Payout.owed_le_total payouts p.recipient
  have htotal := balancesTotal_eq accounts.balances p.recipient
  rw [supply] at hsupply
  rw [balance]
  omega

end Accounts

end Roshambo
