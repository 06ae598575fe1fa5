import Roshambo.Keeper.Transaction
import Roshambo.Proofs.Outcome
import Roshambo.Proofs.Records

/-! The calls of players in closed form: the checks in their order, and the one state a call leaves when all pass. -/

namespace Roshambo

namespace GameStore

lemma allocate?_isNone {store : GameStore} : store.allocate?.isNone ↔ ¬ store.nextId.toNat + 1 < UInt64.size := by
  simp only [allocate?]
  split <;> simp [*]

end GameStore

variable {κ β α : Type}

def Ledger.withStore (ledger : Ledger κ β) (store : GameStore) : Ledger κ β :=
  { ledger with keeper := { ledger.keeper with store := store } }

namespace Keeper

variable {keeper : Keeper κ} {now : Instant}

lemma findGame_eq_ok_iff {id : GameId} {game : Game} :
    keeper.findGame id = .ok game ↔ keeper.store.game? id = some game := by
  simp only [findGame]
  cases keeper.store.game? id <;> simp

variable [AddressCodec κ]

lemma resolve_eq_ok_iff {text : String} {address : Address} :
    keeper.resolve text = .ok address ↔ AddressCodec.decode keeper.codec text = .ok address :=
  mapError_eq_ok_iff

lemma updateParams_eq_ok_iff {keeper' : Keeper κ} {authority : String} {params : Params} :
    keeper.updateParams authority params = .ok keeper' ↔
      (∃ address, keeper.resolve authority = .ok address) ∧ Text.sameLetters authority keeper.authority ∧
        params.validate = .ok () ∧ keeper' = { keeper with params := params } := by
  simp only [updateParams, checkParams, throw_bind, bind_eq_ok_iff, guard_eq_ok_iff, mapError_eq_ok_iff, not_not]
  constructor
  · rintro ⟨address, haddress, hletters, _, hparams, h⟩
    exact ⟨⟨address, haddress⟩, hletters, hparams, (Except.ok.inj h).symm⟩
  · rintro ⟨⟨address, haddress⟩, hletters, hparams, rfl⟩
    exact ⟨address, haddress, hletters, (), hparams, rfl⟩

lemma admitStart_eq_ok_iff {player : String} {fee : Amount} {creator : Address} {closing : Instant} :
    keeper.admitStart now player fee = .ok (creator, closing) ↔
      fee ≠ .zero ∧ keeper.resolve player = .ok creator ∧
        deadline now keeper.params.commitWindow "commit deadline" = .ok closing ∧
        fee.times? maxPlayers ≠ none ∧ keeper.store.nextId.toNat + 1 < UInt64.size := by
  simp only [admitStart, throw_bind, guard_eq_ok_iff, bind_eq_ok_iff, GameStore.allocate?_isNone, not_not]
  constructor
  · rintro ⟨hfee, a, ha, b, hb, hprize, hid, h⟩
    obtain ⟨rfl, rfl⟩ := Prod.mk.inj (Except.ok.inj h)
    exact ⟨hfee, ha, hb, hprize, hid⟩
  · rintro ⟨hfee, ha, hb, hprize, hid⟩
    exact ⟨hfee, creator, ha, closing, hb, hprize, hid, rfl⟩

lemma admitCommit_eq_ok_iff {id : GameId} {player : String} {joiner : Address} {fee : Amount} :
    keeper.admitCommit now id player = .ok (joiner, fee) ↔
      keeper.resolve player = .ok joiner ∧ ∃ game, keeper.store.game? id = some game ∧
        keeper.store.commitCount id < maxPlayers ∧ ¬ game.commitClosed now ∧
        ¬ keeper.store.hasCommit id joiner ∧ game.entryFee = fee := by
  simp only [admitCommit, throw_bind, guard_eq_ok_iff, bind_eq_ok_iff, findGame_eq_ok_iff, Nat.not_le]
  constructor
  · rintro ⟨a, ha, game, hgame, hfull, hopen, hfresh, h⟩
    obtain ⟨rfl, rfl⟩ := Prod.mk.inj (Except.ok.inj h)
    exact ⟨ha, game, hgame, hfull, hopen, hfresh, rfl⟩
  · rintro ⟨ha, game, hgame, hfull, hopen, hfresh, rfl⟩
    exact ⟨joiner, ha, game, hgame, hfull, hopen, hfresh, rfl⟩

lemma admitReveal_eq_ok_iff {id : GameId} {text label salt : String} {player : Address} {move : Move} {game : Game} :
    keeper.admitReveal now id text label salt = .ok (player, move, game) ↔
      keeper.resolve text = .ok player ∧ Move.ofLabel? label = some move ∧
        keeper.store.game? id = some game ∧ ¬ game.revealClosed now ∧
        ∃ commit, keeper.store.commit? id player = some commit ∧
          keeper.store.commitCount id = maxPlayers ∧ ¬ keeper.store.hasReveal id player ∧
          commit.commitment.opensTo move salt := by
  simp only [admitReveal, throw_bind, bind_eq_ok_iff]
  constructor
  · rintro ⟨player', hplayer, h⟩
    split at h
    · rename_i move' hmove
      simp only [bind_eq_ok_iff, guard_eq_ok_iff, findGame_eq_ok_iff] at h
      obtain ⟨game', hgame, hopen, h⟩ := h
      split at h
      · rename_i commit hcommit
        simp only [guard_eq_ok_iff, not_not] at h
        obtain ⟨hfull, hfresh, hopens, h⟩ := h
        obtain ⟨rfl, hrest⟩ := Prod.mk.inj (Except.ok.inj h)
        obtain ⟨rfl, rfl⟩ := Prod.mk.inj hrest
        exact ⟨hplayer, hmove, hgame, hopen, commit, hcommit, hfull, hfresh, hopens⟩
      · cases h
    · cases h
  · rintro ⟨hplayer, hmove, hgame, hopen, commit, hcommit, hfull, hfresh, hopens⟩
    refine ⟨player, hplayer, ?_⟩
    simp only [hmove, bind_eq_ok_iff, guard_eq_ok_iff, findGame_eq_ok_iff]
    refine ⟨game, hgame, hopen, ?_⟩
    simp only [hcommit, guard_eq_ok_iff, not_not]
    exact ⟨hfull, hfresh, hopens, rfl⟩

end Keeper

namespace Transaction

variable (ledger : Ledger κ β)

lemma bind_apply {γ : Type} (tx : Transaction κ β α) (next : α → Transaction κ β γ) :
    (tx >>= next) ledger =
      match tx ledger with
      | .ok a l => next a l
      | .error e l => .error e l := by
  simp only [bind, EStateM.bind]
  cases tx ledger <;> rfl

lemma get_apply : (get : Transaction κ β (Ledger κ β)) ledger = .ok ledger ledger := rfl

lemma pure_apply (a : α) : (pure a : Transaction κ β α) ledger = .ok a ledger := rfl

lemma keeper_apply : (keeper : Transaction κ β (Keeper κ)) ledger = .ok ledger.keeper ledger := rfl

lemma check_ok (a : α) : (check (.ok a) : Transaction κ β α) ledger = .ok a ledger := rfl

lemma modifyStore_apply (f : GameStore → GameStore) :
    (modifyStore f : Transaction κ β Unit) ledger =
      .ok () (ledger.withStore (f ledger.keeper.store)) := rfl

lemma allocateId_apply (h : ledger.keeper.store.nextId.toNat + 1 < UInt64.size) :
    (allocateId : Transaction κ β GameId) ledger =
      .ok ledger.keeper.store.nextId
        (ledger.withStore { ledger.keeper.store with nextId := ledger.keeper.store.nextId + 1 }) := by
  simp only [allocateId, bind_apply, keeper_apply, GameStore.allocate?, if_pos h, modifyStore_apply, pure_apply]

lemma stake_apply [Bank β] (payer : Address) (amount : Amount) :
    (stake payer amount : Transaction κ β Unit) ledger =
      match Bank.deposit ledger.bank payer amount with
      | .ok bank => .ok () { ledger with bank := bank }
      | .error e => .error (.ofLedger e) ledger := by
  simp only [stake, bind_apply, get_apply]
  cases Bank.deposit ledger.bank payer amount <;> rfl

variable [AddressCodec κ]

lemma updateParams_eq (authority : String) (params : Params) :
    updateParams authority params ledger =
      match ledger.keeper.updateParams authority params with
      | .error e => .error e ledger
      | .ok keeper => .ok () { ledger with keeper := keeper } := by
  simp only [updateParams, bind_apply, get_apply]
  cases ledger.keeper.updateParams authority params <;> rfl

lemma revealMove_eq (block : Block) (id : GameId) (player label salt : String) :
    revealMove block id player label salt ledger =
      match ledger.keeper.admitReveal block.time id player label salt with
      | .error e => .error e ledger
      | .ok (player, move, game) =>
        match game.revealDeadline with
        | some _ => .ok () (ledger.withStore (ledger.keeper.store.setReveal id player ⟨move, salt, block.time⟩))
        | none =>
          match Keeper.deadline block.time ledger.keeper.params.revealWindow "reveal deadline" with
          | .error e => .error e ledger
          | .ok closing => .ok () (ledger.withStore
            ((ledger.keeper.store.setGame { game with revealDeadline := some closing }).setReveal id player
              ⟨move, salt, block.time⟩)) := by
  simp only [revealMove, bind_apply, keeper_apply]
  cases ledger.keeper.admitReveal block.time id player label salt with
  | error e => rfl
  | ok admitted =>
    obtain ⟨player, move, game⟩ := admitted
    simp only [check_ok]
    cases game.revealDeadline with
    | some closing => rfl
    | none =>
      simp only [Option.isNone_none, if_true, bind_apply, keeper_apply]
      cases Keeper.deadline block.time ledger.keeper.params.revealWindow "reveal deadline" <;> rfl

variable [Bank β]

lemma startGame_eq (block : Block) (player : String) (commitment : Commitment) (fee : Amount) :
    startGame block player commitment fee ledger =
      match ledger.keeper.admitStart block.time player fee with
      | .error e => .error e ledger
      | .ok (creator, closing) =>
        match Bank.deposit ledger.bank creator fee with
        | .error e => .error (.ofLedger e) ledger
        | .ok bank => .ok ledger.keeper.store.nextId (Ledger.withStore { ledger with bank := bank }
          (ledger.keeper.store.start creator fee closing ⟨commitment, block.time⟩)) := by
  simp only [startGame, bind_apply, keeper_apply]
  cases ha : ledger.keeper.admitStart block.time player fee with
  | error e => rfl
  | ok admitted =>
    obtain ⟨creator, closing⟩ := admitted
    obtain ⟨_, _, _, _, hid⟩ := Keeper.admitStart_eq_ok_iff.mp ha
    simp only [check_ok, stake_apply]
    cases hd : Bank.deposit ledger.bank creator fee with
    | error e => rfl
    | ok bank => simp only [allocateId_apply ⟨ledger.keeper, bank⟩ hid, modifyStore_apply, pure_apply]; rfl

lemma commitMove_eq (block : Block) (id : GameId) (player : String) (commitment : Commitment) :
    commitMove block id player commitment ledger =
      match ledger.keeper.admitCommit block.time id player with
      | .error e => .error e ledger
      | .ok (joiner, fee) =>
        match Bank.deposit ledger.bank joiner fee with
        | .error e => .error (.ofLedger e) ledger
        | .ok bank => .ok () (Ledger.withStore { ledger with bank := bank }
          (ledger.keeper.store.setCommit id joiner ⟨commitment, block.time⟩)) := by
  simp only [commitMove, bind_apply, keeper_apply]
  cases ledger.keeper.admitCommit block.time id player with
  | error e => rfl
  | ok admitted =>
    simp only [check_ok, stake_apply]
    cases Bank.deposit ledger.bank admitted.1 admitted.2 <;> rfl

section Accepted

variable {ledger} {next : Ledger κ β} {block : Block} {id : GameId} {text label salt : String} {commitment : Commitment}

lemma startGame_eq_ok {fee : Amount} (h : startGame block text commitment fee ledger = .ok id next) :
    ∃ creator closing bank, ledger.keeper.admitStart block.time text fee = .ok (creator, closing) ∧
      Bank.deposit ledger.bank creator fee = .ok bank ∧ id = ledger.keeper.store.nextId ∧
      next = Ledger.withStore { ledger with bank := bank }
        (ledger.keeper.store.start creator fee closing ⟨commitment, block.time⟩) := by
  rw [startGame_eq] at h
  cases admitted : ledger.keeper.admitStart block.time text fee with
  | error e =>
    rw [admitted] at h
    cases h
  | ok entry =>
    obtain ⟨creator, closing⟩ := entry
    cases staked : Bank.deposit ledger.bank creator fee with
    | error e =>
      simp only [admitted, staked] at h
      cases h
    | ok bank =>
      simp only [admitted, staked] at h
      cases h
      exact ⟨creator, closing, bank, rfl, staked, rfl, rfl⟩

lemma commitMove_eq_ok (h : commitMove block id text commitment ledger = .ok () next) :
    ∃ joiner fee bank, ledger.keeper.admitCommit block.time id text = .ok (joiner, fee) ∧
      Bank.deposit ledger.bank joiner fee = .ok bank ∧
      next = Ledger.withStore { ledger with bank := bank }
        (ledger.keeper.store.setCommit id joiner ⟨commitment, block.time⟩) := by
  rw [commitMove_eq] at h
  cases admitted : ledger.keeper.admitCommit block.time id text with
  | error e =>
    rw [admitted] at h
    cases h
  | ok entry =>
    obtain ⟨joiner, fee⟩ := entry
    cases staked : Bank.deposit ledger.bank joiner fee with
    | error e =>
      simp only [admitted, staked] at h
      cases h
    | ok bank =>
      simp only [admitted, staked] at h
      cases h
      exact ⟨joiner, fee, bank, rfl, staked, rfl⟩

omit [Bank β] in
lemma revealMove_eq_ok (h : revealMove block id text label salt ledger = .ok () next) :
    ∃ player move game, ledger.keeper.admitReveal block.time id text label salt = .ok (player, move, game) ∧
      (next = ledger.withStore (ledger.keeper.store.setReveal id player ⟨move, salt, block.time⟩) ∨
        ∃ closing, next = ledger.withStore ((ledger.keeper.store.setGame
          { game with revealDeadline := some closing }).setReveal id player ⟨move, salt, block.time⟩)) := by
  rw [revealMove_eq] at h
  cases admitted : ledger.keeper.admitReveal block.time id text label salt with
  | error e =>
    rw [admitted] at h
    cases h
  | ok entry =>
    obtain ⟨player, move, game⟩ := entry
    refine ⟨player, move, game, rfl, ?_⟩
    cases unset : game.revealDeadline with
    | some closing =>
      simp only [admitted, unset] at h
      cases h
      exact Or.inl rfl
    | none =>
      cases closes : Keeper.deadline block.time ledger.keeper.params.revealWindow "reveal deadline" with
      | error e =>
        simp only [admitted, unset, closes] at h
        cases h
      | ok closing =>
        simp only [admitted, unset, closes] at h
        cases h
        exact Or.inr ⟨closing, rfl⟩

end Accepted

end Transaction

end Roshambo
