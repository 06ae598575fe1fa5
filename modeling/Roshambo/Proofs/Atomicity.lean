import Roshambo.Proofs.Solvency

/-! Each call checks all it needs before its first write, and what follows a paid stake cannot fail. -/

namespace Roshambo

variable {κ β α : Type}

namespace Transaction

lemma answer_eq_ok_iff {tx : Transaction κ β α} {ledger : Ledger κ β} {a : α} :
    tx.answer ledger = .ok a ↔ ∃ next, tx ledger = .ok a next := by
  rw [answer]
  cases tx ledger <;> simp

lemma answer_eq_error_iff {tx : Transaction κ β α} {ledger : Ledger κ β} {e : GameError} :
    tx.answer ledger = .error e ↔ ∃ next, tx ledger = .error e next := by
  rw [answer]
  cases tx ledger <;> simp

lemma stake_eq_ok_iff [Bank β] {payer : Address} {amount : Amount} {ledger next : Ledger κ β} :
    stake payer amount ledger = .ok () next ↔
      ∃ bank, Bank.deposit ledger.bank payer amount = .ok bank ∧ next = { ledger with bank := bank } := by
  rw [stake_apply]
  cases Bank.deposit ledger.bank payer amount <;> simp [eq_comm]

def Atomic (tx : Transaction κ β α) : Prop := ∀ ledger e next, tx ledger = .error e next → next = ledger

variable [AddressCodec κ]

lemma initGenesis_eq (state : GenesisState) (ledger : Ledger κ β) :
    initGenesis state ledger =
      match ledger.keeper.initGenesis state with
      | .error e => .error e ledger
      | .ok keeper => .ok () { ledger with keeper := keeper } := by
  simp only [initGenesis, bind_apply, get_apply]
  cases ledger.keeper.initGenesis state <;> rfl

lemma initGenesis_atomic (state : GenesisState) : (initGenesis state : Transaction κ β Unit).Atomic := by
  intro ledger e next h
  rw [initGenesis_eq] at h
  cases hk : ledger.keeper.initGenesis state <;> rw [hk] at h <;> cases h
  rfl

lemma updateParams_atomic (authority : String) (params : Params) :
    (updateParams authority params : Transaction κ β Unit).Atomic := by
  intro ledger e next h
  rw [updateParams_eq] at h
  cases hk : ledger.keeper.updateParams authority params <;> rw [hk] at h <;> cases h
  rfl

lemma revealMove_atomic (block : Block) (id : GameId) (player label salt : String) :
    (revealMove block id player label salt : Transaction κ β Unit).Atomic := by
  intro ledger e next h
  rw [revealMove_eq] at h
  cases admitted : ledger.keeper.admitReveal block.time id player label salt with
  | error e' =>
    rw [admitted] at h
    cases h
    rfl
  | ok entry =>
    obtain ⟨player, move, game⟩ := entry
    simp only [admitted] at h
    cases deadline : game.revealDeadline with
    | some closing =>
      rw [deadline] at h
      cases h
    | none =>
      -- The end of the window is computed after all other checks, but before the first write.
      cases closes : Keeper.deadline block.time ledger.keeper.params.revealWindow "reveal deadline" with
      | error e' =>
        simp only [deadline, closes] at h
        cases h
        rfl
      | ok closing =>
        simp only [deadline, closes] at h
        cases h

variable [Bank β]

lemma startGame_atomic (block : Block) (player : String) (commitment : Commitment) (fee : Amount) :
    (startGame block player commitment fee : Transaction κ β GameId).Atomic := by
  intro ledger e next h
  rw [startGame_eq] at h
  cases admitted : ledger.keeper.admitStart block.time player fee with
  | error e' =>
    rw [admitted] at h
    cases h
    rfl
  | ok entry =>
    simp only [admitted] at h
    cases staked : Bank.deposit ledger.bank entry.1 fee <;> rw [staked] at h <;> cases h
    rfl

lemma commitMove_atomic (block : Block) (id : GameId) (player : String) (commitment : Commitment) :
    (commitMove block id player commitment : Transaction κ β Unit).Atomic := by
  intro ledger e next h
  rw [commitMove_eq] at h
  cases admitted : ledger.keeper.admitCommit block.time id player with
  | error e' =>
    rw [admitted] at h
    cases h
    rfl
  | ok entry =>
    simp only [admitted] at h
    cases staked : Bank.deposit ledger.bank entry.1 entry.2 <;> rw [staked] at h <;> cases h
    rfl

end Transaction

open Transaction

/-- In every state, a call or an import that fails has changed nothing. A game that is admitted and whose stake is
paid gets the next id and is started. -/
theorem Transaction.failure_changes_nothing :
    (∀ {κ β : Type} [AddressCodec κ] [Bank β],
      (∀ block player commitment fee, (startGame block player commitment fee : Transaction κ β GameId).Atomic) ∧
      (∀ block id player commitment, (commitMove block id player commitment : Transaction κ β Unit).Atomic) ∧
      (∀ block id player label salt, (revealMove block id player label salt : Transaction κ β Unit).Atomic) ∧
      (∀ authority params, (updateParams authority params : Transaction κ β Unit).Atomic) ∧
      ∀ state, (initGenesis state : Transaction κ β Unit).Atomic) ∧
    ∀ {κ β : Type} [AddressCodec κ] [Bank β] {ledger staked : Ledger κ β} {block : Block} {player : String}
      {fee : Amount} {creator : Address} {closing : Instant},
      ledger.keeper.admitStart block.time player fee = .ok (creator, closing) →
      stake creator fee ledger = .ok () staked →
        (∃ next, allocateId staked = .ok ledger.keeper.store.nextId next) ∧
        ∀ commitment, ∃ next, startGame block player commitment fee ledger = .ok ledger.keeper.store.nextId next := by
  constructor
  · intro κ β _ _
    exact ⟨startGame_atomic, commitMove_atomic, revealMove_atomic, updateParams_atomic, initGenesis_atomic⟩
  · intro κ β _ _ ledger staked block player fee creator closing admitted paid
    obtain ⟨bank, deposited, rfl⟩ := stake_eq_ok_iff.mp paid
    obtain ⟨_, _, _, _, hid⟩ := Keeper.admitStart_eq_ok_iff.mp admitted
    refine ⟨⟨_, allocateId_apply ⟨ledger.keeper, bank⟩ hid⟩, fun commitment => ?_⟩
    rw [startGame_eq, admitted]
    simp only [deposited]
    exact ⟨_, rfl⟩

namespace Sample

def exhausted : Ledger Bech32Codec Accounts :=
  { ledger with keeper := { loaded with store := { loaded.store with nextId := 18446744073709551615 } } }

def twofold : GenesisState :=
  { state with commits := [⟨0, "rps1qynh06fd", ⟨⟨"x"⟩, .epoch⟩⟩, ⟨0, "RPS1QYNH06FD", ⟨⟨"y"⟩, .epoch⟩⟩], reveals := [] }

end Sample

theorem Transaction.failure_changes_nothing_exhausted :
    startGame ⟨1, .epoch⟩ "rps1qvdrtkhs" ⟨"z"⟩ ⟨5⟩ Sample.exhausted =
      .error (.overflow "game id sequence exhausted") Sample.exhausted ∧
    revealMove ⟨1, .epoch⟩ 0 "rps1qynh06fd" "rock" "s" Sample.ledger = .error (.commitmentMismatch 0) Sample.ledger ∧
    initGenesis Sample.twofold Sample.ledger =
      .error (.invalidGenesis (.duplicateCommit "RPS1QYNH06FD" 0)) Sample.ledger ∧
    ∃ next, startGame ⟨1, .epoch⟩ "rps1qvdrtkhs" ⟨"z"⟩ ⟨5⟩ Sample.ledger = .ok 1 next := by
  obtain ⟨atomic, started⟩ := Transaction.failure_changes_nothing
  obtain ⟨startGame_atomic, _, revealMove_atomic, _, initGenesis_atomic⟩ := @atomic Bech32Codec Accounts _ _
  refine ⟨?_, ?_, ?_, ?_⟩
  · obtain ⟨next, failed⟩ := answer_eq_error_iff.mp (show (startGame ⟨1, .epoch⟩ "rps1qvdrtkhs" ⟨"z"⟩ ⟨5⟩).answer
      Sample.exhausted = .error (.overflow "game id sequence exhausted") by decide +kernel)
    obtain rfl := startGame_atomic _ _ _ _ _ _ _ failed
    exact failed
  · obtain ⟨next, failed⟩ := answer_eq_error_iff.mp (show (revealMove ⟨1, .epoch⟩ 0 "rps1qynh06fd" "rock" "s").answer
      Sample.ledger = .error (.commitmentMismatch 0) by decide +kernel)
    obtain rfl := revealMove_atomic _ _ _ _ _ _ _ _ failed
    exact failed
  · obtain ⟨next, failed⟩ := answer_eq_error_iff.mp (show (initGenesis Sample.twofold).answer
      Sample.ledger = .error (.invalidGenesis (.duplicateCommit "RPS1QYNH06FD" 0)) by decide +kernel)
    obtain rfl := initGenesis_atomic _ _ _ _ failed
    exact failed
  · have admitted : Sample.ledger.keeper.admitStart Instant.epoch "rps1qvdrtkhs" ⟨5⟩ =
        .ok (⟨[3]⟩, ⟨60, 0, by decide, by decide⟩) := by decide +kernel
    obtain ⟨staked, paid⟩ := answer_eq_ok_iff.mp
      (show (stake ⟨[3]⟩ ⟨5⟩).answer Sample.ledger = .ok () by decide +kernel)
    exact (@started _ _ _ _ _ _ ⟨1, .epoch⟩ _ _ _ _ admitted paid).2 _

end Roshambo
