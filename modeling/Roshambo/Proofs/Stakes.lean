import Roshambo.Proofs.Payouts

namespace Roshambo

variable {κ : Type}

namespace GameStore

def feeOf (store : GameStore) (id : GameId) : Nat := (store.game? id).elim 0 (·.entryFee.toNat)

def stakes (store : GameStore) : Nat := (store.commits.keys.map fun seat => store.feeOf seat.game).sum

variable {store : GameStore}

lemma feeOf_eq {id : GameId} {game : Game} (h : store.game? id = some game) :
    store.feeOf id = game.entryFee.toNat := by
  rw [feeOf, h]
  rfl

lemma stakes_eq (store : GameStore) : store.stakes = (store.commits.entries.map fun e => store.feeOf e.1.game).sum := by
  rw [stakes, SortedMap.keys, List.map_map]
  rfl

@[simp] lemma stakes_empty : empty.stakes = 0 := rfl

lemma stakes_congr {store' : GameStore} (hcommits : store'.commits = store.commits)
    (hfee : ∀ {seat commit}, store.commits.get? seat = some commit → store'.feeOf seat.game = store.feeOf seat.game) :
    store'.stakes = store.stakes := by
  rw [stakes_eq, stakes_eq, hcommits]
  congr 1
  apply List.map_congr_left
  rintro ⟨seat, commit⟩ he
  exact hfee (SortedMap.get?_eq_some_iff.mpr he)

lemma stakes_setCommit {id : GameId} {player : Address} (h : store.commits.get? ⟨id, player⟩ = none)
    (commit : MoveCommit) : (store.setCommit id player commit).stakes = store.stakes + store.feeOf id := by
  have hperm := (SortedMap.perm_insert_new commit h).map fun e => store.feeOf e.1.game
  have hsum := hperm.sum_nat
  rw [List.map_cons, List.sum_cons, ← stakes_eq, Nat.add_comm] at hsum
  rw [stakes_eq]
  exact hsum

lemma sum_fees (store : GameStore) (id : GameId) :
    ((store.commits.entries.filter fun e => e.1.game = id).map fun e => store.feeOf e.1.game).sum =
      store.commitCount id * store.feeOf id := by
  have hmap : (store.commits.entries.filter fun e => e.1.game = id).map (fun e => store.feeOf e.1.game) =
      List.replicate (store.commitCount id) (store.feeOf id) := by
    rw [commitCount_eq_countP, List.countP_eq_length_filter, List.map_eq_replicate_iff]
    intro e he
    rw [of_decide_eq_true (List.mem_filter.mp he).2]
  rw [hmap, List.sum_replicate_nat]

lemma stakes_removeGame (store : GameStore) (id : GameId) :
    store.stakes = (store.removeGame id).stakes + store.commitCount id * store.feeOf id := by
  have hkept : (store.without [id]).stakes =
      ((store.commits.entries.filter fun e => e.1.game ≠ id).map fun e => store.feeOf e.1.game).sum := by
    have hfilter : (store.without [id]).commits.entries = store.commits.entries.filter fun e => e.1.game ≠ id := by
      simp [without]
    rw [stakes_eq, hfilter]
    congr 1
    apply List.map_congr_left
    intro e he
    have hne : e.1.game ∉ [id] := by simpa using (List.mem_filter.mp he).2
    rw [feeOf, feeOf, game?_without, if_neg hne]
  have hsplit := ((List.filter_append_perm (fun e : Seat × MoveCommit => decide (e.1.game = id))
    store.commits.entries).map fun e => store.feeOf e.1.game).sum_nat
  rw [List.map_append, List.sum_append_nat, sum_fees, ← stakes_eq] at hsplit
  rw [removeGame_eq_without, hkept, ← hsplit, Nat.add_comm]
  simp only [decide_not]

variable [AddressCodec κ] {codec : κ}

lemma stakes_start (h : store.WellFormed codec) (creator : Address) (fee : Amount) (closing : Instant)
    (commit : MoveCommit) : (store.start creator fee closing commit).stakes = store.stakes + fee.toNat := by
  let opened := ({ store with nextId := store.nextId + 1 }).setGame ⟨store.nextId, fee, closing, none⟩
  have hgame : ∀ id, opened.game? id = if id = store.nextId then some ⟨store.nextId, fee, closing, none⟩ else
      store.game? id := game?_setGame _ _
  have hold : opened.stakes = store.stakes := by
    refine stakes_congr rfl fun {seat commit} hcommit => ?_
    obtain ⟨game, hseat⟩ := h.commitOfGame hcommit
    rw [feeOf, feeOf, hgame, if_neg (h.ne_next hseat)]
  have hnew : opened.feeOf store.nextId = fee.toNat := by
    rw [feeOf, hgame, if_pos rfl]
    rfl
  have hfresh : opened.commits.get? ⟨store.nextId, creator⟩ = none := h.no_commit_at_next creator
  rw [← hold, ← hnew]
  exact stakes_setCommit hfresh commit

lemma stakes_setDeadline (h : store.WellFormed codec) {id : GameId} {game : Game} (hgame : store.game? id = some game)
    (closing : Instant) : (store.setGame { game with revealDeadline := some closing }).stakes = store.stakes := by
  refine stakes_congr rfl fun {seat _} _ => ?_
  rw [feeOf, feeOf, game?_setGame]
  split
  · rename_i hseat
    rw [hseat, h.ownId hgame, hgame]
    rfl
  · rfl

end GameStore

namespace Keeper

variable {store : GameStore} {total total' : Amount}

lemma addStake_eq_ok_iff {seat : Seat} : addStake store total seat = .ok total' ↔
    (∃ game, store.game? seat.game = some game) ∧ total'.toNat = total.toNat + store.feeOf seat.game := by
  simp only [addStake, GameStore.feeOf]
  cases store.game? seat.game with
  | none => simp
  | some game =>
    simp only [Option.elim_some, ← Amount.add?_eq_some_iff]
    cases total.add? game.entryFee with
    | none => simp
    | some sum =>
      simp only [Option.some.injEq, exists_eq', true_and]
      exact Iff.of_eq (Except.ok.injEq sum total')

lemma addStakes_eq_ok_iff {seats : List Seat} : seats.foldlM (addStake store) total = .ok total' ↔
    (∀ seat ∈ seats, ∃ game, store.game? seat.game = some game) ∧
      total'.toNat = total.toNat + (seats.map fun seat => store.feeOf seat.game).sum := by
  induction seats generalizing total with
  | nil =>
    have hnil : ([] : List Seat).foldlM (addStake store) total = .ok total := rfl
    simp [hnil, ← Amount.toNat_inj, eq_comm]
  | cons seat rest ih =>
    rw [List.foldlM_cons, bind_eq_ok_iff, List.forall_mem_cons, List.map_cons, List.sum_cons]
    simp only [addStake_eq_ok_iff, ih]
    constructor
    · rintro ⟨middle, ⟨hgame, hmiddle⟩, hrest, htotal⟩
      refine ⟨⟨hgame, hrest⟩, ?_⟩
      omega
    · rintro ⟨⟨hgame, hrest⟩, htotal⟩
      have hlt := total'.toNat_lt
      have hfits : total.toNat + store.feeOf seat.game < UInt64.size := by omega
      obtain ⟨middle, hmiddle⟩ := Amount.exists_toNat hfits
      refine ⟨middle, ⟨hgame, hmiddle⟩, hrest, ?_⟩
      omega

lemma outstandingStakes_eq_ok_iff {keeper : Keeper κ} : keeper.outstandingStakes = .ok total ↔
    (∀ seat ∈ keeper.store.commits.keys, ∃ game, keeper.store.game? seat.game = some game) ∧
      total.toNat = keeper.store.stakes := by
  rw [outstandingStakes, addStakes_eq_ok_iff, Amount.toNat_zero, Nat.zero_add]
  rfl

end Keeper

variable [AddressCodec κ]

lemma GameStore.WellFormed.outstandingStakes {keeper : Keeper κ} (h : keeper.store.WellFormed keeper.codec)
    {total : Amount} (htotal : total.toNat = keeper.store.stakes) : keeper.outstandingStakes = .ok total := by
  refine Keeper.outstandingStakes_eq_ok_iff.mpr ⟨fun seat hseat => ?_, htotal⟩
  obtain ⟨commit, hcommit⟩ := SortedMap.mem_keys.mp hseat
  exact h.commitOfGame hcommit

lemma Step.pool_balance {ledger next : Ledger κ Accounts} (step : Step ledger next)
    (h : ledger.keeper.store.WellFormed ledger.keeper.codec) :
    next.bank.pool.toNat + ledger.keeper.store.stakes = ledger.bank.pool.toNat + next.keeper.store.stakes := by
  cases step with
  | start admitted staked =>
    have hpool := Accounts.pool_deposit staked
    simp only [Ledger.withStore, GameStore.stakes_start h]
    omega
  | join admitted staked =>
    obtain ⟨_, game, hgame, _, _, hfresh, rfl⟩ := Keeper.admitCommit_eq_ok_iff.mp admitted
    have hpool := Accounts.pool_deposit staked
    have hstakes := GameStore.stakes_setCommit (GameStore.get?_eq_none_of_not_hasCommit hfresh)
    rw [GameStore.feeOf_eq hgame] at hstakes
    simp only [Ledger.withStore, hstakes]
    omega
  | firstReveal admitted unset closes =>
    obtain ⟨_, _, hgame, _⟩ := Keeper.admitReveal_eq_ok_iff.mp admitted
    exact congrArg (ledger.bank.pool.toNat + ·) (GameStore.stakes_setDeadline h hgame _).symm
  | reveal admitted closes => rfl
  | setParams accepted =>
    obtain ⟨_, _, _, rfl⟩ := Keeper.updateParams_eq_ok_iff.mp accepted
    rfl
  | settle settled =>
    obtain ⟨game, bank, hgame, hplan, hpay, rfl⟩ := Transaction.settleGame_eq_some settled
    have hid := h.ownId hgame
    obtain ⟨hpool, _⟩ := Accounts.payOut_eq_ok hpay
    rw [← hid] at hgame
    rw [Settlement.total_of_plan h hgame hplan] at hpool
    have hstakes := ledger.keeper.store.stakes_removeGame game.id
    rw [GameStore.feeOf_eq hgame] at hstakes
    simp only [Ledger.withStore, ← hid]
    omega

lemma Steps.pool_balance {ledger next : Ledger κ Accounts} (steps : Steps ledger next)
    (h : ledger.keeper.store.WellFormed ledger.keeper.codec) :
    next.bank.pool.toNat + ledger.keeper.store.stakes = ledger.bank.pool.toNat + next.keeper.store.stakes := by
  induction steps with
  | refl => rfl
  | tail steps step ih =>
    have hstep := step.pool_balance (Steps.wellFormed steps h)
    omega

end Roshambo
