import Roshambo.Bank.Freezable
import Roshambo.Proofs.Payments
import Roshambo.Proofs.Stakes

/-! What many payments do together does not depend on their order, and all of them succeed when the pool and an amount
can hold the money. -/

namespace Roshambo

namespace Payout

variable {payouts payouts' : List Payout}

lemma total_append (payouts payouts' : List Payout) : total (payouts ++ payouts') = total payouts + total payouts' := by
  rw [total, List.map_append, List.sum_append_nat]
  rfl

lemma total_perm (h : payouts.Perm payouts') : total payouts = total payouts' := by
  rw [total, total]
  exact (h.map _).sum_nat

lemma owed_perm (h : payouts.Perm payouts') (address : Address) : owed payouts address = owed payouts' address :=
  total_perm (h.filter _)

end Payout

namespace Accounts

variable {balances balances' : Balances} {payouts payouts' : List Payout}

lemma balances_ext (hlisted : ∀ address, (balances.get? address).isSome ↔ (balances'.get? address).isSome)
    (hamount : ∀ address, (balanceIn balances address).toNat = (balanceIn balances' address).toNat) :
    balances = balances' := by
  apply SortedMap.ext_get?
  intro address
  have hlisted := hlisted address
  have hamount := hamount address
  simp only [balanceIn, Amount.toNat_inj] at hamount
  cases h : balances.get? address <;> cases h' : balances'.get? address <;> simp_all

lemma credits_perm {after after' : Balances} (hperm : payouts.Perm payouts')
    (h : payouts.foldlM credit balances = .ok after) (h' : payouts'.foldlM credit balances = .ok after') :
    after = after' := by
  apply balances_ext
  · intro address
    rw [listed_credits h, listed_credits h', (hperm.map (·.recipient)).mem_iff]
  · intro address
    rw [balanceIn_credits h, balanceIn_credits h', Payout.owed_perm hperm]

end Accounts

namespace Settlement

open Accounts

variable {settlements settlements' : List Settlement} {accounts after after' : Accounts}

lemma payAll_eq_ok (h : payAll settlements accounts = .ok after) :
    accounts.pool.toNat = after.pool.toNat + Payout.total (settlements.flatMap (·.payouts)) ∧
      (settlements.flatMap (·.payouts)).foldlM credit accounts.balances = .ok after.balances ∧
      after.owner = accounts.owner := by
  induction settlements generalizing accounts with
  | nil =>
    obtain rfl := Except.ok.inj h
    exact ⟨rfl, rfl, rfl⟩
  | cons s rest ih =>
    rw [payAll_cons, bind_eq_ok_iff] at h
    obtain ⟨middle, hmiddle, h⟩ := h
    obtain ⟨hpool, hbalances, howner⟩ := payOut_eq_ok hmiddle
    obtain ⟨hpool', hbalances', howner'⟩ := ih h
    refine ⟨?_, ?_, howner'.trans howner⟩
    · rw [List.flatMap_cons, Payout.total_append]
      omega
    · rw [List.flatMap_cons, List.foldlM_append, hbalances]
      exact hbalances'

lemma payAll_perm (hperm : settlements.Perm settlements') (h : payAll settlements accounts = .ok after)
    (h' : payAll settlements' accounts = .ok after') : after = after' := by
  have hpayouts := hperm.flatMap_right (·.payouts)
  obtain ⟨hpool, hbalances, howner⟩ := payAll_eq_ok h
  obtain ⟨hpool', hbalances', howner'⟩ := payAll_eq_ok h'
  rw [Payout.total_perm hpayouts] at hpool
  have hsame : after.pool = after'.pool := Amount.toNat_inj.mp (by omega)
  cases after
  cases after'
  simp only [Accounts.mk.injEq]
  exact ⟨howner.trans howner'.symm, hsame, credits_perm hpayouts hbalances hbalances'⟩

lemma payAll_of_fit (hpool : Payout.total (settlements.flatMap (·.payouts)) ≤ accounts.pool.toNat)
    (hsupply : accounts.supply < UInt64.size) : ∃ after, payAll settlements accounts = .ok after := by
  induction settlements generalizing accounts with
  | nil => exact ⟨accounts, rfl⟩
  | cons s rest ih =>
    rw [List.flatMap_cons, Payout.total_append] at hpool
    have hfirst : Payout.total s.payouts ≤ accounts.pool.toNat := by omega
    obtain ⟨middle, hmiddle⟩ := payOut_of_supply hfirst hsupply
    obtain ⟨hpool', _⟩ := payOut_eq_ok hmiddle
    have hrest : Payout.total (rest.flatMap (·.payouts)) ≤ middle.pool.toNat := by omega
    obtain ⟨after, hafter⟩ := ih hrest ((supply_payOut hmiddle).symm ▸ hsupply)
    refine ⟨after, ?_⟩
    rw [payAll_cons]
    exact bind_eq_ok_iff.mpr ⟨middle, hmiddle, hafter⟩

variable {κ : Type} [AddressCodec κ] {codec : κ} {now : Instant} {store : GameStore}

lemma stakes_eq_total (hstore : store.WellFormed codec) (hdue : ∀ s ∈ settlements, Due now store s)
    (hnodup : (settlements.map (·.game)).Nodup) :
    store.stakes = Payout.total (settlements.flatMap (·.payouts)) +
      (store.without (settlements.map (·.game))).stakes := by
  induction settlements generalizing store with
  | nil => simp
  | cons s rest ih =>
    obtain ⟨⟨game, hgame, hplan⟩, hdue⟩ := List.forall_mem_cons.mp hdue
    obtain ⟨hnew, hnodup⟩ := List.nodup_cons.mp hnodup
    have hid : s.game = game.id := plan_game hplan
    have hrest : ∀ t ∈ rest, Due now (store.without [s.game]) t := by
      intro t ht
      exact due_without.mpr ⟨hdue t ht, fun hmem => hnew (List.mem_map.mpr ⟨t, ht, List.mem_singleton.mp hmem⟩)⟩
    have hstakes := store.stakes_removeGame s.game
    rw [GameStore.removeGame_eq_without, ih (hstore.without [s.game]) hrest hnodup, GameStore.without_without,
      GameStore.feeOf_eq hgame] at hstakes
    rw [hid] at hgame
    have htotal := total_of_plan hstore hgame hplan
    rw [List.flatMap_cons, Payout.total_append, List.map_cons, htotal, ← hid]
    simp only [List.singleton_append] at hstakes
    omega

end Settlement

namespace Freezable

open Settlement

def thawed {β : Type} (b : Freezable β) : Freezable β := b.frozen.foldl thaw b

lemma foldl_thaw {β : Type} (addresses : List Address) (b : Freezable β) :
    addresses.foldl thaw b = { b with frozen := b.frozen.filter (· ∉ addresses) } := by
  induction addresses generalizing b with
  | nil =>
    have hall : b.frozen.filter (· ∉ ([] : List Address)) = b.frozen := List.filter_eq_self.mpr (by simp)
    rw [List.foldl_nil, hall]
  | cons address rest ih =>
    rw [List.foldl_cons, ih, thaw]
    simp only [List.filter_filter, List.mem_cons, not_or, ← Bool.decide_and, and_comm]

lemma thawed_eq {β : Type} (b : Freezable β) : b.thawed = ⟨b.bank, []⟩ := by
  rw [thawed, foldl_thaw]
  simp

variable {settlements : List Settlement} {bank bank' : Accounts} {frozen : List Address}

lemma payOut_eq (b : Freezable Accounts) (payouts : List Payout) :
    Bank.payOut b payouts =
      if payouts.any (b.isFrozen ·.recipient) then .error refusal
      else match b.bank.payOut payouts with
        | .error e => .error e
        | .ok bank => .ok ⟨bank, b.frozen⟩ := by
  change (if _ then _ else b.bank.payOut payouts >>= fun bank => .ok (Freezable.mk bank b.frozen)) = _
  congr 1
  cases b.bank.payOut payouts <;> rfl

lemma payAll_eq_ok {b b' : Freezable Accounts} (h : payAll settlements b = .ok b') :
    payAll settlements b.bank = .ok b'.bank ∧ b'.frozen = b.frozen := by
  induction settlements generalizing b with
  | nil =>
    obtain rfl := Except.ok.inj h
    exact ⟨rfl, rfl⟩
  | cons s rest ih =>
    rw [payAll_cons, bind_eq_ok_iff] at h
    obtain ⟨middle, hmiddle, h⟩ := h
    rw [payOut_eq] at hmiddle
    split at hmiddle
    · cases hmiddle
    · cases hpay : b.bank.payOut s.payouts with
      | error e =>
        rw [hpay] at hmiddle
        cases hmiddle
      | ok paid =>
        rw [hpay] at hmiddle
        obtain rfl := Except.ok.inj hmiddle
        rw [payAll_cons]
        obtain ⟨hrest, hfrozen⟩ := ih h
        exact ⟨bind_eq_ok_iff.mpr ⟨paid, hpay, hrest⟩, hfrozen⟩

lemma payAll_thawed (h : payAll settlements bank = .ok bank') :
    payAll settlements (Freezable.mk bank []) = .ok ⟨bank', []⟩ := by
  induction settlements generalizing bank with
  | nil =>
    obtain rfl := Except.ok.inj h
    rfl
  | cons s rest ih =>
    rw [payAll_cons, bind_eq_ok_iff] at h
    obtain ⟨middle, hmiddle, h⟩ := h
    have hpay : Bank.payOut (Freezable.mk bank []) s.payouts = .ok ⟨middle, []⟩ := by
      have hnone : s.payouts.any ((Freezable.mk bank []).isFrozen ·.recipient) = false := by
        simp [isFrozen]
      change bank.payOut s.payouts = .ok middle at hmiddle
      simp only [payOut_eq, hnone, hmiddle, Bool.false_eq_true, if_false]
    rw [payAll_cons]
    exact bind_eq_ok_iff.mpr ⟨_, hpay, ih h⟩

end Freezable

end Roshambo
