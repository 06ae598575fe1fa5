import Roshambo.Proofs.Durability

/-! An import fills the pool up to the stakes that it brings, and from there on they move together. -/

namespace Roshambo

variable {κ : Type}

namespace GenesisState

variable {state : GenesisState}

def feeOf (state : GenesisState) (id : GameId) : Nat := (state.games.find? (·.id = id)).elim 0 (·.entryFee.toNat)

def stakes (state : GenesisState) : Nat := (state.commits.map fun c => state.feeOf c.game).sum

end GenesisState

namespace Keeper.Loaded

variable [AddressCodec κ] {codec : κ} {state : GenesisState} {store : GameStore}

lemma feeOf (h : Loaded codec state store) (id : GameId) : store.feeOf id = state.feeOf id := by
  have hgame : store.game? id = state.games.find? (·.id = id) := by
    cases hfind : state.games.find? (·.id = id) with
    | some game =>
      have hid : game.id = id := by simpa using List.find?_some hfind
      exact h.game.mpr ⟨List.mem_of_find?_eq_some hfind, hid⟩
    | none =>
      cases hgame : store.game? id with
      | none => rfl
      | some game =>
        obtain ⟨hmem, hid⟩ := h.game.mp hgame
        exact (List.find?_eq_none.mp hfind game hmem (decide_eq_true hid)).elim
  rw [GameStore.feeOf, GenesisState.feeOf, hgame]

lemma stakes (h : Loaded codec state store) : store.stakes = state.stakes := by
  obtain ⟨loaded, hloaded, hperm⟩ := h.commits
  have hfees : state.commits.map (fun c => state.feeOf c.game) = loaded.map fun e => store.feeOf e.1.game :=
    map_eq_of_forall₂ (fun hload => by rw [h.feeOf, hload.1]) hloaded
  rw [GameStore.stakes_eq, GenesisState.stakes, hfees]
  exact (hperm.map _).sum_nat

end Keeper.Loaded

lemma Keeper.new_of_params [AddressCodec κ] {codec : κ} {authority : String} {config : GameConfig}
    {keeper : Keeper κ} (h : Keeper.new codec authority config = .ok keeper) {params : Params}
    (valid : params.validate = .ok ()) (policy : SettlementPolicy) :
    Keeper.new codec authority ⟨params, policy⟩ = .ok ⟨codec, authority, params, policy, .empty⟩ := by
  simp only [new, checkParams, bind_eq_ok_iff, mapError_eq_ok_iff] at h ⊢
  obtain ⟨address, haddress, _⟩ := h
  exact ⟨address, haddress, (), valid, rfl⟩

namespace PoolAdjustment

variable {pool stakes : Amount} {accounts after : Accounts}

def Compares (pool stakes : Amount) : PoolAdjustment → Prop
  | matched => pool.toNat = stakes.toNat
  | minted amount => pool.toNat < stakes.toNat ∧ amount.toNat = stakes.toNat - pool.toNat
  | surplus amount => stakes.toNat < pool.toNat ∧ amount.toNat = pool.toNat - stakes.toNat

lemma compares_between (pool stakes : Amount) : (between pool stakes).Compares pool stakes := by
  rw [between]
  split
  · rename_i hlt
    exact ⟨hlt, UInt64.toNat_sub_of_le _ _ (UInt64.le_of_lt hlt)⟩
  · rename_i hpool
    split
    · rename_i hlt
      exact ⟨hlt, UInt64.toNat_sub_of_le _ _ (UInt64.le_of_lt hlt)⟩
    · rename_i hstakes
      exact Nat.le_antisymm (UInt64.not_lt.mp hstakes) (UInt64.not_lt.mp hpool)

lemma apply_eq_ok {adjustment : PoolAdjustment} (compares : adjustment.Compares accounts.pool stakes)
    (h : adjustment.apply accounts = .ok after) :
    after.pool.toNat = max accounts.pool.toNat stakes.toNat ∧ after = { accounts with pool := after.pool } := by
  cases adjustment with
  | minted amount =>
    obtain ⟨hpool, hafter⟩ := Accounts.mintPool_eq_ok_iff.mp h
    obtain ⟨hlt, hamount⟩ := compares
    refine ⟨?_, hafter⟩
    omega
  | matched =>
    obtain rfl := Except.ok.inj h
    have hsame : accounts.pool.toNat = stakes.toNat := compares
    refine ⟨?_, rfl⟩
    omega
  | surplus amount =>
    obtain rfl := Except.ok.inj h
    obtain ⟨hlt, _⟩ := compares
    refine ⟨?_, rfl⟩
    omega

lemma apply_of_le {adjustment : PoolAdjustment} (compares : adjustment.Compares accounts.pool stakes)
    (hle : stakes.toNat ≤ accounts.pool.toNat) :
    adjustment.apply accounts = .ok accounts ∧ ∀ amount, adjustment ≠ .minted amount := by
  cases adjustment with
  | minted amount =>
    have hlt := compares.1
    omega
  | matched | surplus => exact ⟨rfl, fun _ => nofun⟩

end PoolAdjustment

namespace Node

variable {config : NodeConfig} {node next : Node} {state : GenesisState} {stakes : Amount}

lemma store_of_restore_empty (found : restore config .empty = .ok node) : node.keeper.store = .empty := by
  obtain ⟨fresh, state, hfresh, hstate, hresume⟩ := (restore_eq_ok_iff.mp found).keeper
  obtain rfl := Except.ok.inj hstate
  obtain ⟨_, hmade⟩ := Keeper.new_eq_ok hfresh
  rw [← Except.ok.inj hresume, hmade]

lemma Effect.backed (effect : Effect node next) (h : node.keeper.store.WellFormed node.codec)
    (backed : node.keeper.store.stakes ≤ node.accounts.pool.toNat) :
    next.keeper.store.stakes ≤ next.accounts.pool.toNat := by
  cases effect with
  | refused => exact backed
  | funded minted => exact backed.trans_eq (congrArg Amount.toNat (Accounts.mint_pool minted)).symm
  | @block _ _ ledger _ _ steps _ _ =>
    -- the steps move the pool and the stakes by the same amount
    have hbalance := steps.pool_balance h
    change ledger.keeper.store.stakes ≤ ledger.bank.pool.toNat
    change node.ledger.keeper.store.stakes ≤ node.ledger.bank.pool.toNat at backed
    omega
  | @imported _ stakes ledger _ accepted _ _ =>
    obtain ⟨hpool, _⟩ := PoolAdjustment.apply_eq_ok (PoolAdjustment.compares_between _ stakes) accepted.filled
    obtain ⟨_, hstakes⟩ := Keeper.outstandingStakes_eq_ok_iff.mp accepted.owed
    change ledger.keeper.store.stakes ≤ ledger.bank.pool.toNat
    omega

lemma Reachable.backed (reachable : node.Reachable config) :
    node.keeper.store.stakes ≤ node.accounts.pool.toNat := by
  induction reachable with
  | opened found =>
    rw [store_of_restore_empty found]
    exact Nat.zero_le _
  | operated reachable op ih => exact (reachable.kept.toSound.effect op).backed reachable.kept.wellFormed ih
  | reopened reachable found ih =>
    obtain ⟨hledger, _⟩ := reachable.kept.reopen found
    rw [keeper, accounts, hledger]
    exact ih

lemma Reachable.outstandingStakes (reachable : node.Reachable config) :
    ∃ stakes, node.keeper.outstandingStakes = .ok stakes ∧ stakes ≤ node.accounts.pool := by
  have hbacked := reachable.backed
  obtain ⟨stakes, hstakes⟩ := Amount.exists_toNat (Nat.lt_of_le_of_lt hbacked node.accounts.pool.toNat_lt)
  exact ⟨stakes, reachable.kept.wellFormed.outstandingStakes hstakes, Amount.le_iff.mpr (hstakes ▸ hbacked)⟩

lemma Kept.reimport (kept : Kept config node) (hstate : node.keeper.exportGenesis = .ok state)
    (hdatabase : node.database = node.snapshot state) (owed : node.keeper.outstandingStakes = .ok stakes)
    (hle : stakes ≤ node.accounts.pool) :
    importGenesis state node = .ok (.between node.accounts.pool stakes) node := by
  obtain ⟨own, hown, hvalid, hexported⟩ := Keeper.exportGenesis_valid kept.params kept.wellFormed
  obtain rfl := Except.ok.inj (hown.symm.trans hstate)
  have hload : Keeper.new node.codec node.keeper.authority ⟨own.params, node.keeper.policy⟩ >>=
      (·.initGenesis own) = .ok node.keeper := by
    obtain ⟨fresh, hfresh⟩ := kept.fresh
    have hloaded : Keeper.Loaded node.codec own node.keeper.store := hexported.loaded kept.wellFormed
    rw [Keeper.new_of_params hfresh hvalid.params, ok_bind]
    refine (Keeper.Loaded.initGenesis_eq_ok hloaded hvalid).trans ?_
    rw [hexported.params]
  have hsave : node.database.saveSnapshot node.last node.accounts moduleName own.text = node.database :=
    (kept.written_database (.refl node.accounts) own).trans hdatabase.symm
  have hpersist : persist { node with ledger := ⟨node.keeper, node.accounts⟩ } = .ok () node := by
    change persist node = .ok () node
    simp only [persist_eq, hstate, hsave]
  have hfill := (PoolAdjustment.apply_of_le (PoolAdjustment.compares_between _ stakes) (Amount.le_iff.mp hle)).1
  rw [importGenesis_eq, hload]
  simp only [owed, hfill, hpersist]

/-- An import that is accepted leaves the pool at the larger of what it held and the stakes of the imported state, and
says which; nothing else of the accounts, the clock or the rules of the ledger changes, and the node's own export,
imported next, changes nothing at all. So the pool of every node covers its stakes. -/
theorem import_backs_stakes (reachable : node.Reachable config) :
    (∀ {imported adjustment next}, importGenesis imported node = .ok adjustment next → ∃ stakes own again,
      next.keeper.outstandingStakes = .ok stakes ∧ stakes.toNat = imported.stakes ∧
      next.accounts.pool.toNat = max node.accounts.pool.toNat stakes.toNat ∧
      adjustment.Compares node.accounts.pool stakes ∧
      next.accounts = { node.accounts with pool := next.accounts.pool } ∧ next.last = node.last ∧
      next.keeper.policy = node.keeper.policy ∧
      next.keeper.authority = node.keeper.authority ∧ next.keeper.exportGenesis = .ok own ∧
      importGenesis own next = .ok again next ∧ ∀ amount, again ≠ .minted amount) ∧
    ∃ stakes, node.keeper.outstandingStakes = .ok stakes ∧ stakes ≤ node.accounts.pool := by
  refine ⟨fun {imported adjustment next} accepted => ?_, reachable.outstandingStakes⟩
  have kept := reachable.kept
  rcases kept.toSound.importGenesis imported with ⟨e, h⟩ | ⟨stakes, ledger, own, himported, hown, hvalid, hexported, h⟩
  · rw [h] at accepted
    cases accepted
  · rw [h] at accepted
    cases accepted
    have hgrows : node.accounts.Grows ledger.bank := .of_apply himported.filled
    have compares := PoolAdjustment.compares_between node.accounts.pool stakes
    obtain ⟨hpool, hbank⟩ := PoolAdjustment.apply_eq_ok compares himported.filled
    obtain ⟨_, hstakes⟩ := Keeper.outstandingStakes_eq_ok_iff.mp himported.owed
    have hcovered : stakes.toNat ≤ ledger.bank.pool.toNat := hpool ▸ Nat.le_max_right _ _
    have kept' := kept.written (himported.sound kept.toSound) hgrows hvalid hexported
    have hagain := kept'.reimport hown (kept.written_database hgrows own) himported.owed (Amount.le_iff.mpr hcovered)
    exact ⟨stakes, own, _, himported.owed, hstakes.trans himported.loaded.stakes, hpool, compares, hbank, rfl,
      himported.akin.policy, himported.akin.authority, hown, hagain,
      (PoolAdjustment.apply_of_le (PoolAdjustment.compares_between _ stakes) hcovered).2⟩

end Node

theorem Node.import_backs_stakes_funded :
    ∃ next own again, importGenesis Sample.state Sample.funded = .ok (.minted ⟨10⟩) next ∧
      next.accounts.pool.toNat = 10 ∧ next.accounts.balances = Sample.funded.accounts.balances ∧
      next.keeper.exportGenesis = .ok own ∧ importGenesis own next = .ok again next := by
  have hanswer : NodeAction.answer (importGenesis Sample.state) Sample.funded = .ok (.minted ⟨10⟩) := by decide +kernel
  rw [NodeAction.answer] at hanswer
  split at hanswer
  · rename_i adjustment next accepted
    obtain rfl := Except.ok.inj hanswer
    obtain ⟨stakes, own, again, _, hstakes, hpool, _, haccounts, _, _, _, hown, hagain, _⟩ :=
      (import_backs_stakes Sample.funded_reachable).1 accepted
    have hsum : Sample.state.stakes = 10 := by decide +kernel
    have hempty : Sample.funded.accounts.pool.toNat = 0 := by decide +kernel
    refine ⟨next, own, again, accepted, ?_, ?_, hown, hagain⟩
    · omega
    · rw [haccounts]
  · cases hanswer

end Roshambo
