import Roshambo.Proofs.Operations
import Roshambo.Proofs.SnapshotTexts
import Roshambo.Proofs.Snapshots
import Roshambo.Proofs.StoredRows

namespace Roshambo

variable {κ β α : Type}

namespace Accounts

variable {accounts middle after : Accounts}

lemma listed_insert {balances : Balances} {k : Address} {v : Amount} (address : Address)
    (h : (balances.get? address).isSome) : ((balances.insert k v).get? address).isSome := by
  rw [SortedMap.get?_insert]
  split
  · rfl
  · exact h

namespace Grows

lemma refl (accounts : Accounts) : accounts.Grows accounts := ⟨rfl, fun _ => id⟩

lemma trans (h : accounts.Grows middle) (h' : middle.Grows after) : accounts.Grows after :=
  ⟨h'.owner.trans h.owner, fun address ha => h'.listed address (h.listed address ha)⟩

lemma of_mint {recipient : Address} {amount : Amount} (h : accounts.mint recipient amount = .ok after) :
    accounts.Grows after := by
  obtain ⟨_, _, rfl⟩ := mint_eq_ok h
  exact ⟨rfl, listed_insert⟩

lemma of_mintPool {amount : Amount} (h : accounts.mintPool amount = .ok after) : accounts.Grows after := by
  obtain ⟨_, h⟩ := mintPool_eq_ok_iff.mp h
  rw [h]
  exact ⟨rfl, fun _ => id⟩

lemma of_deposit {payer : Address} {amount : Amount} (h : accounts.deposit payer amount = .ok after) :
    accounts.Grows after := by
  obtain ⟨_, _, _, h⟩ := deposit_eq_ok h
  rw [h]
  exact ⟨rfl, listed_insert⟩

lemma of_payOut {payouts : List Payout} (h : accounts.payOut payouts = .ok after) : accounts.Grows after := by
  obtain ⟨_, hbalances, howner⟩ := payOut_eq_ok h
  exact ⟨howner, fun address h => (listed_credits hbalances address).mpr (Or.inl h)⟩

lemma of_apply {adjustment : PoolAdjustment} (h : adjustment.apply accounts = .ok after) : accounts.Grows after := by
  cases adjustment with
  | minted => exact of_mintPool h
  | matched | surplus =>
    obtain rfl := Except.ok.inj h
    exact refl accounts

end Grows

end Accounts

structure Keeper.Akin (keeper next : Keeper κ) : Prop where
  codec : next.codec = keeper.codec
  authority : next.authority = keeper.authority
  policy : next.policy = keeper.policy

lemma Keeper.Akin.refl (keeper : Keeper κ) : keeper.Akin keeper := ⟨rfl, rfl, rfl⟩

section Steps

variable [AddressCodec κ]

lemma Step.akin [Bank β] {ledger next : Ledger κ β} (step : Step ledger next) : ledger.keeper.Akin next.keeper := by
  cases step with
  | start | join | firstReveal | reveal => exact ⟨rfl, rfl, rfl⟩
  | setParams accepted =>
    obtain ⟨_, _, _, rfl⟩ := Keeper.updateParams_eq_ok_iff.mp accepted
    exact ⟨rfl, rfl, rfl⟩
  | settle settled =>
    obtain ⟨_, _, _, _, _, rfl⟩ := Transaction.settleGame_eq_some settled
    exact ⟨rfl, rfl, rfl⟩

lemma Steps.akin [Bank β] {ledger next : Ledger κ β} (steps : Steps ledger next) :
    ledger.keeper.Akin next.keeper := by
  induction steps with
  | refl => exact .refl _
  | tail _ step ih =>
    have h := step.akin
    exact ⟨h.codec.trans ih.codec, h.authority.trans ih.authority, h.policy.trans ih.policy⟩

lemma Step.grows {ledger next : Ledger κ Accounts} (step : Step ledger next) : ledger.bank.Grows next.bank := by
  cases step with
  | start _ staked | join _ staked => exact .of_deposit staked
  | firstReveal | reveal | setParams => exact .refl _
  | settle settled =>
    obtain ⟨_, _, _, _, paid, rfl⟩ := Transaction.settleGame_eq_some settled
    exact .of_payOut paid

lemma Steps.grows {ledger next : Ledger κ Accounts} (steps : Steps ledger next) : ledger.bank.Grows next.bank := by
  induction steps with
  | refl => exact .refl _
  | tail _ step ih => exact ih.trans step.grows

end Steps

namespace Transaction

variable {tx : Transaction κ β α}

lemma Atomic.after_eq (atomic : tx.Atomic) {ledger : Ledger κ β} {e : GameError} (h : tx.answer ledger = .error e) :
    tx.after ledger = ledger := by
  obtain ⟨next, hnext⟩ := answer_eq_error_iff.mp h
  rw [after, hnext]
  exact atomic ledger e next hnext

variable [AddressCodec κ] [Bank β]

structure Orderly (tx : Transaction κ β α) : Prop where
  atomic : tx.Atomic
  steps : ∀ ledger, Steps ledger (tx.after ledger)

lemma orderly_pure (a : α) : (pure a : Transaction κ β α).Orderly := ⟨fun _ _ _ h => (by cases h), fun _ => .refl⟩

lemma orderly_startGame (block : Block) (player : String) (commitment : Commitment) (fee : Amount) :
    (startGame block player commitment fee : Transaction κ β GameId).Orderly :=
  ⟨startGame_atomic block player commitment fee, (Call.startGame block player commitment fee).apply_steps⟩

lemma orderly_commitMove (block : Block) (id : GameId) (player : String) (commitment : Commitment) :
    (commitMove block id player commitment : Transaction κ β Unit).Orderly :=
  ⟨commitMove_atomic block id player commitment, (Call.commitMove block id player commitment).apply_steps⟩

lemma orderly_revealMove (block : Block) (id : GameId) (player label salt : String) :
    (revealMove block id player label salt : Transaction κ β Unit).Orderly :=
  ⟨revealMove_atomic block id player label salt, (Call.revealMove block id player label salt).apply_steps⟩

lemma orderly_updateParams (authority : String) (params : Params) :
    (updateParams authority params : Transaction κ β Unit).Orderly :=
  ⟨updateParams_atomic authority params, (Call.updateParams authority params).apply_steps⟩

end Transaction

def Keeper.resume [AddressCodec κ] (keeper : Keeper κ) : Option GenesisState → Except GameError (Keeper κ)
  | none => .ok keeper
  | some state => keeper.initGenesis state

lemma Keeper.resume_akin [AddressCodec κ] {keeper next : Keeper κ} {state : Option GenesisState}
    (h : keeper.resume state = .ok next) : keeper.Akin next := by
  cases state with
  | none =>
    obtain rfl := Except.ok.inj h
    exact .refl keeper
  | some state =>
    obtain ⟨_, hloaded, _⟩ := Keeper.initGenesis_eq_ok h
    rw [hloaded]
    exact ⟨rfl, rfl, rfl⟩

lemma Block.next_eq_ok {last block : Block} {time : Instant} (h : last.next time = .ok block) :
    last.time ≤ time ∧ block.height = last.height + 1 ∧ block.time = time := by
  simp only [next, guard_eq_ok_iff] at h
  obtain ⟨hle, h⟩ := h
  obtain rfl := Except.ok.inj h
  exact ⟨hle, rfl, rfl⟩

namespace Node

structure Sound (config : NodeConfig) (node : Node) : Prop where
  owner : node.accounts.owner = config.ledger.moduleAccount
  codec : config.ledger.codec = .ok node.codec
  authority : config.ledger.authorityText = .ok node.keeper.authority
  policy : node.keeper.policy = config.game.settlement
  fresh : ∃ fresh, Keeper.new node.codec node.keeper.authority config.game = .ok fresh
  params : node.keeper.params.validate = .ok ()
  wellFormed : node.keeper.store.WellFormed node.codec

structure FoundIn (config : NodeConfig) (database : Database) (node : Node) : Prop where
  clock : ∃ last, database.loadClock = .ok last ∧ last.getD (.genesis .epoch) = node.last
  accounts : database.loadAccounts config.ledger.moduleAccount = .ok node.accounts
  codec : config.ledger.codec = .ok node.codec
  authority : config.ledger.authorityText = .ok node.keeper.authority
  keeper : ∃ fresh state, Keeper.new node.codec node.keeper.authority config.game = .ok fresh ∧
    database.loadState GenesisState.ofJson? moduleName = .ok state ∧ fresh.resume state = .ok node.keeper
  database : node.database = database

structure Saved (config : NodeConfig) (node : Node) : Prop extends Sound config node where
  whole : node.last.time.IsWhole
  clock : ∃ last, node.database.loadClock = .ok last ∧ last.getD (.genesis .epoch) = node.last
  shows : node.database.Shows node.accounts
  keeper : ∃ fresh state, Keeper.new node.codec node.keeper.authority config.game = .ok fresh ∧
    node.database.loadState GenesisState.ofJson? moduleName = .ok state ∧ fresh.resume state = .ok node.keeper

variable {config : NodeConfig} {node next : Node}

lemma restore_eq_ok_iff {database : Database} : restore config database = .ok node ↔ FoundIn config database node := by
  simp only [restore, bind_eq_ok_iff, mapError_eq_ok_iff]
  constructor
  · rintro ⟨last, hlast, accounts, haccounts, codec, hcodec, authority, hauthority, fresh, hfresh, state, hstate, h⟩
    have hresume : ∃ keeper, fresh.resume state = .ok keeper ∧
        node = ⟨last.getD (.genesis .epoch), ⟨keeper, accounts⟩, database⟩ := by
      cases state with
      | none => exact ⟨fresh, rfl, (Except.ok.inj h).symm⟩
      | some state =>
        obtain ⟨keeper, hkeeper, h⟩ := bind_eq_ok_iff.mp h
        exact ⟨keeper, mapError_eq_ok_iff.mp hkeeper, (Except.ok.inj h).symm⟩
    obtain ⟨keeper, hkeeper, rfl⟩ := hresume
    have akin := Keeper.resume_akin hkeeper
    obtain ⟨_, hmade⟩ := Keeper.new_eq_ok hfresh
    obtain rfl : keeper.codec = codec := akin.codec.trans (congrArg Keeper.codec hmade)
    obtain rfl : keeper.authority = authority := akin.authority.trans (congrArg Keeper.authority hmade)
    exact ⟨⟨last, hlast, rfl⟩, haccounts, hcodec, hauthority, ⟨fresh, state, hfresh, hstate, hkeeper⟩, rfl⟩
  · intro found
    obtain ⟨last, hlast, hblock⟩ := found.clock
    obtain ⟨fresh, state, hfresh, hstate, hkeeper⟩ := found.keeper
    have hnode : node = ⟨last.getD (.genesis .epoch), ⟨node.keeper, node.accounts⟩, database⟩ := by
      rw [hblock, ← found.database]
      rfl
    refine ⟨last, hlast, node.accounts, found.accounts, node.codec, found.codec, node.keeper.authority, found.authority,
      fresh, hfresh, state, hstate, ?_⟩
    rw [hnode]
    cases state with
    | none =>
      obtain rfl := Except.ok.inj hkeeper
      rfl
    | some state => exact bind_eq_ok_iff.mpr ⟨node.keeper, mapError_eq_ok_iff.mpr hkeeper, rfl⟩

lemma Saved.restore (saved : Saved config node) : restore config node.database = .ok node :=
  restore_eq_ok_iff.mpr
    { clock := saved.clock, accounts := saved.owner ▸ saved.shows.loadAccounts, codec := saved.codec,
      authority := saved.authority, keeper := saved.keeper, database := rfl }

lemma sound_of_restore {database : Database} (h : Node.restore config database = .ok node) : Sound config node := by
  have found := restore_eq_ok_iff.mp h
  obtain ⟨fresh, state, hfresh, _, hkeeper⟩ := found.keeper
  obtain ⟨hparams, hmade⟩ := Keeper.new_eq_ok hfresh
  obtain ⟨hvalid, hwellFormed⟩ : node.keeper.params.validate = .ok () ∧ node.keeper.store.WellFormed node.codec := by
    cases state with
    | none =>
      obtain rfl := Except.ok.inj hkeeper
      rw [hmade]
      exact ⟨hparams, GameStore.wellFormed_empty⟩
    | some state =>
      obtain ⟨hvalid, hloaded, _⟩ := Keeper.initGenesis_eq_ok hkeeper
      refine ⟨?_, Keeper.initGenesis_wellFormed hkeeper⟩
      rw [hloaded]
      exact hvalid.params
  refine
    { owner := ?owner, codec := found.codec, authority := found.authority, policy := ?policy, fresh := ⟨fresh, hfresh⟩,
      params := hvalid, wellFormed := hwellFormed }
  case owner =>
    obtain ⟨balances, _, haccounts⟩ := bind_eq_ok_iff.mp found.accounts
    rw [← Except.ok.inj haccounts]
  case policy => exact (Keeper.resume_akin hkeeper).policy.trans (congrArg Keeper.policy hmade)

lemma saved_of_restore_empty (h : Node.restore config .empty = .ok node) : Saved config node := by
  have found := restore_eq_ok_iff.mp h
  obtain ⟨last, hlast, hblock⟩ := found.clock
  obtain rfl := Except.ok.inj hlast
  refine
    { toSound := sound_of_restore h, whole := ?whole, clock := ?clock, shows := ?shows, keeper := ?keeper }
  case whole =>
    rw [← hblock]
    exact Instant.isWhole_epoch
  case clock =>
    rw [found.database]
    exact found.clock
  case shows =>
    rw [found.database, ← Except.ok.inj found.accounts]
    exact ⟨.empty, rfl⟩
  case keeper =>
    rw [found.database]
    exact found.keeper

lemma Sound.of_akin (sound : Sound config node) (last : Block) {ledger : Ledger Bech32Codec Accounts}
    (akin : node.keeper.Akin ledger.keeper) (grows : node.accounts.Grows ledger.bank)
    (params : ledger.keeper.params.validate = .ok ()) (wellFormed : ledger.keeper.store.WellFormed ledger.keeper.codec)
    (database : Database) : Sound config ⟨last, ledger, database⟩ := by
  have hcodec : ledger.keeper.codec = node.codec := akin.codec
  refine
    { owner := grows.owner.trans sound.owner, codec := sound.codec.trans (congrArg _ hcodec.symm),
      authority := sound.authority.trans (congrArg _ akin.authority.symm), policy := akin.policy.trans sound.policy,
      fresh := ?fresh, params := params, wellFormed := wellFormed }
  obtain ⟨fresh, hfresh⟩ := sound.fresh
  rw [← hcodec, ← akin.authority] at hfresh
  exact ⟨fresh, hfresh⟩

def written (node : Node) (state : GenesisState) : Node :=
  { node with database := node.database.saveSnapshot node.last node.accounts moduleName state.text }

lemma Sound.persist (sound : Sound config node) :
    ∃ state, persist node = .ok () (node.written state) ∧ node.keeper.exportGenesis = .ok state ∧ state.Valid ∧
      node.keeper.Exported state := by
  obtain ⟨state, hstate, hvalid, hexported⟩ := Keeper.exportGenesis_valid sound.params sound.wellFormed
  refine ⟨state, ?_, hstate, hvalid, hexported⟩
  rw [persist_eq, hstate]
  rfl

lemma Sound.resume_exported (sound : Sound config node) {state : GenesisState} (hvalid : state.Valid)
    (hexported : node.keeper.Exported state) :
    ∃ fresh, Keeper.new node.codec node.keeper.authority config.game = .ok fresh ∧
      fresh.resume (some state) = .ok node.keeper := by
  obtain ⟨fresh, hfresh⟩ := sound.fresh
  obtain ⟨_, hmade⟩ := Keeper.new_eq_ok hfresh
  have hload := hexported.loaded sound.wellFormed
  have hcodec : node.keeper.codec = fresh.codec := by
    rw [hmade]
    rfl
  rw [hcodec] at hload
  refine ⟨fresh, hfresh, (hload.initGenesis_eq_ok hvalid).trans (congrArg Except.ok ?_)⟩
  rw [hexported.params, hmade, ← sound.policy]
  rfl

lemma shows_written {accounts : Accounts} (shows : node.database.Shows accounts) (grows : accounts.Grows node.accounts)
    (state : GenesisState) : (node.written state).database.Shows node.accounts := by
  have hclock : (node.database.saveClock node.last).Shows accounts := ⟨shows.balances, shows.pool⟩
  exact ⟨(hclock.saveAccounts grows).balances, (hclock.saveAccounts grows).pool⟩

lemma loadState_written (state : GenesisState) :
    (node.written state).database.loadState GenesisState.ofJson? moduleName = .ok (some state) := by
  have htext := state.ofText?_text
  rw [GenesisState.ofText?] at htext
  simp only [written, Database.loadState, Database.saveSnapshot, Database.saveState, SortedMap.get?_insert, if_true,
    htext]

lemma Sound.saved_written (sound : Sound config node) (whole : node.last.time.IsWhole) {accounts : Accounts}
    (shows : node.database.Shows accounts) (grows : accounts.Grows node.accounts) {state : GenesisState}
    (hvalid : state.Valid) (hexported : node.keeper.Exported state) : Saved config (node.written state) := by
  obtain ⟨fresh, hfresh, hresume⟩ := sound.resume_exported hvalid hexported
  exact
    { toSound := ⟨sound.owner, sound.codec, sound.authority, sound.policy, sound.fresh, sound.params, sound.wellFormed⟩
      whole := whole
      clock := ⟨some node.last, Database.loadClock_saveClock node.database (Instant.ofMillis?_whole whole), rfl⟩
      shows := shows_written shows grows state
      keeper := ⟨fresh, some state, hfresh, loadState_written state, hresume⟩ }

lemma Sound.deliver_ok (sound : Sound config node) {time : Instant} {tx : Block → Transaction Bech32Codec Accounts α}
    (orderly : ∀ block, (tx block).Orderly) {block : Block} (hblock : node.last.next time = .ok block) {output : α}
    (answer : (tx block).answer node.ledger = .ok output) {ledger : Ledger Bech32Codec Accounts}
    (hledger : ledger = (Transaction.endRound block).after ((tx block).after node.ledger)) :
    ∃ state, Steps node.ledger ledger ∧ ledger.keeper.exportGenesis = .ok state ∧ state.Valid ∧
      ledger.keeper.Exported state ∧
      Node.deliver time tx node =
        .ok ⟨block, output, (Transaction.endRound block).answer ((tx block).after node.ledger)⟩
          (written ⟨block, ledger, node.database⟩ state) := by
  have hsteps : Steps node.ledger ledger := by
    rw [hledger]
    exact ((orderly block).steps node.ledger).trans ((Call.endRound block).apply_steps _)
  have hsound := sound.of_akin block hsteps.akin hsteps.grows (hsteps.params_valid sound.params)
    (hsteps.wellFormed sound.wellFormed) node.database
  obtain ⟨state, hpersist, hstate, hvalid, hexported⟩ := hsound.persist
  refine ⟨state, hsteps, hstate, hvalid, hexported, ?_⟩
  rw [hledger] at hpersist ⊢
  simp only [deliver_eq, hblock, answer, hpersist]

lemma Sound.deliver (sound : Sound config node) (time : Instant) {tx : Block → Transaction Bech32Codec Accounts α}
    (orderly : ∀ block, (tx block).Orderly) :
    (∃ e, Node.deliver time tx node = .error e node) ∨
      ∃ delivery ledger state, node.last.next time = .ok delivery.block ∧ Steps node.ledger ledger ∧ state.Valid ∧
        ledger.keeper.Exported state ∧
        Node.deliver time tx node = .ok delivery (written ⟨delivery.block, ledger, node.database⟩ state) := by
  cases hblock : node.last.next time with
  | error e =>
    rw [deliver_eq, hblock]
    exact Or.inl ⟨_, rfl⟩
  | ok block =>
    cases hanswer : (tx block).answer node.ledger with
    | error e =>
      simp only [deliver_eq, hblock, hanswer, (orderly block).atomic.after_eq hanswer]
      exact Or.inl ⟨_, rfl⟩
    | ok output =>
      obtain ⟨state, hsteps, _, hvalid, hexported, hdeliver⟩ := sound.deliver_ok orderly hblock hanswer rfl
      exact Or.inr ⟨_, _, state, rfl, hsteps, hvalid, hexported, hdeliver⟩

lemma Sound.submit (sound : Sound config node) (time : Instant) (submission : Submission) :
    (∃ e, submission.deliver time node = .error e node) ∨
      ∃ block ledger state, node.last.next time = .ok block ∧ Steps node.ledger ledger ∧ state.Valid ∧
        ledger.keeper.Exported state ∧
        submission.deliver time node = .ok block (written ⟨block, ledger, node.database⟩ state) := by
  have hmap : ∀ {β : Type} {tx : Block → Transaction Bech32Codec Accounts β}, (∀ block, (tx block).Orderly) →
      (∃ e, (Delivery.block <$> Node.deliver time tx) node = .error e node) ∨
        ∃ block ledger state, node.last.next time = .ok block ∧ Steps node.ledger ledger ∧ state.Valid ∧
          ledger.keeper.Exported state ∧ (Delivery.block <$> Node.deliver time tx) node =
            .ok block (written ⟨block, ledger, node.database⟩ state) := by
    intro β tx orderly
    rcases sound.deliver time orderly with ⟨e, h⟩ | ⟨delivery, ledger, state, hblock, hsteps, hvalid, hexported, h⟩
    · exact Or.inl ⟨e, by rw [action_map_apply, h]⟩
    · exact Or.inr ⟨delivery.block, ledger, state, hblock, hsteps, hvalid, hexported, by rw [action_map_apply, h]⟩
  cases submission with
  | nothing => exact hmap fun _ => Transaction.orderly_pure ()
  | startGame player commitment fee => exact hmap fun block => Transaction.orderly_startGame block player commitment fee
  | commitMove id player commitment => exact hmap fun block => Transaction.orderly_commitMove block id player commitment
  | revealMove id player label salt =>
    exact hmap fun block => Transaction.orderly_revealMove block id player label salt
  | updateParams authority params => exact hmap fun _ => Transaction.orderly_updateParams authority params

structure Imported (node : Node) (imported : GenesisState) (stakes : Amount) (ledger : Ledger Bech32Codec Accounts) :
    Prop where
  valid : imported.Valid
  akin : node.keeper.Akin ledger.keeper
  params : ledger.keeper.params = imported.params
  loaded : Keeper.Loaded ledger.keeper.codec imported ledger.keeper.store
  owed : ledger.keeper.outstandingStakes = .ok stakes
  filled : (PoolAdjustment.between node.accounts.pool stakes).apply node.accounts = .ok ledger.bank

lemma Imported.sound {imported : GenesisState} {stakes : Amount} {ledger : Ledger Bech32Codec Accounts}
    (h : node.Imported imported stakes ledger) (sound : Sound config node) :
    Sound config ⟨node.last, ledger, node.database⟩ :=
  sound.of_akin node.last h.akin (.of_apply h.filled) (h.params ▸ h.valid.params) (h.loaded.wellFormed h.valid)
    node.database

lemma Sound.importGenesis (sound : Sound config node) (imported : GenesisState) :
    (∃ e, Node.importGenesis imported node = .error e node) ∨
      ∃ stakes ledger state, node.Imported imported stakes ledger ∧ ledger.keeper.exportGenesis = .ok state ∧
        state.Valid ∧ ledger.keeper.Exported state ∧
        Node.importGenesis imported node =
          .ok (.between node.accounts.pool stakes) (written ⟨node.last, ledger, node.database⟩ state) := by
  rw [importGenesis_eq]
  cases hload : Keeper.new node.codec node.keeper.authority ⟨imported.params, node.keeper.policy⟩ >>=
      (·.initGenesis imported) with
  | error e => exact Or.inl ⟨_, rfl⟩
  | ok keeper =>
    cases hstakes : keeper.outstandingStakes with
    | error e =>
      simp only [hstakes]
      exact Or.inl ⟨_, rfl⟩
    | ok stakes =>
      cases hfill : (PoolAdjustment.between node.accounts.pool stakes).apply node.accounts with
      | error e =>
        simp only [hstakes, hfill]
        exact Or.inl ⟨_, rfl⟩
      | ok accounts =>
        obtain ⟨fresh, hfresh, hloaded⟩ := bind_eq_ok_iff.mp hload
        obtain ⟨_, hmade⟩ := Keeper.new_eq_ok hfresh
        obtain ⟨hvalid, hkeeper, hrecords⟩ := Keeper.initGenesis_eq_ok hloaded
        have himported : node.Imported imported stakes ⟨keeper, accounts⟩ := by
          refine
            { valid := hvalid, akin := ?akin, params := ?params, loaded := hrecords, owed := hstakes, filled := hfill }
          case akin =>
            rw [hkeeper, hmade]
            exact ⟨rfl, rfl, rfl⟩
          case params => exact congrArg Keeper.params hkeeper
        obtain ⟨state, hpersist, hstate, hvalid, hexported⟩ := (himported.sound sound).persist
        simp only [hstakes, hfill, hpersist]
        exact Or.inr ⟨stakes, ⟨keeper, accounts⟩, state, himported, hstate, hvalid, hexported, rfl⟩

lemma fund_after (node : Node) (text : String) (amount : Amount) :
    (Node.fund text amount).after node = node ∨ ∃ address accounts, node.accounts.mint address amount = .ok accounts ∧
      (Node.fund text amount).after node =
        { node with
          ledger := { node.ledger with bank := accounts }
          database := node.database.saveAccounts accounts } := by
  rw [NodeAction.after, fund_eq]
  cases node.address text with
  | error e => exact Or.inl rfl
  | ok address =>
    cases hmint : node.accounts.mint address amount with
    | error e =>
      left
      simp only [hmint]
    | ok accounts =>
      refine Or.inr ⟨address, accounts, hmint, ?_⟩
      simp only [hmint]

namespace Saved

lemma fund (saved : Saved config node) (text : String) (amount : Amount) :
    Saved config ((Node.fund text amount).after node) := by
  rcases fund_after node text amount with h | ⟨_, accounts, hmint, h⟩
  · rw [h]
    exact saved
  · rw [h]
    have hgrows := Accounts.Grows.of_mint hmint
    exact
      { owner := hgrows.owner.trans saved.owner, codec := saved.codec, authority := saved.authority,
        policy := saved.policy, fresh := saved.fresh, params := saved.params, wellFormed := saved.wellFormed,
        whole := saved.whole, clock := saved.clock, shows := saved.shows.saveAccounts hgrows, keeper := saved.keeper }

lemma after_block (saved : Saved config node) {time : Instant} (hwhole : time.IsWhole) {block : Block}
    (hblock : node.last.next time = .ok block) {ledger : Ledger Bech32Codec Accounts} (steps : Steps node.ledger ledger)
    {state : GenesisState} (hvalid : state.Valid) (hexported : ledger.keeper.Exported state) :
    Saved config (written ⟨block, ledger, node.database⟩ state) := by
  have hsound := saved.toSound.of_akin block steps.akin steps.grows (steps.params_valid saved.params)
    (steps.wellFormed saved.wellFormed) node.database
  have htime : block.time.IsWhole := by
    rwa [(Block.next_eq_ok hblock).2.2]
  exact hsound.saved_written htime saved.shows steps.grows hvalid hexported

lemma deliver (saved : Saved config node) {time : Instant} (hwhole : time.IsWhole)
    {tx : Block → Transaction Bech32Codec Accounts α} (orderly : ∀ block, (tx block).Orderly) :
    Saved config ((Node.deliver time tx).after node) := by
  rw [NodeAction.after]
  rcases saved.toSound.deliver time orderly with
    ⟨e, h⟩ | ⟨delivery, ledger, state, hblock, hsteps, hvalid, hexported, h⟩
  · rw [h]
    exact saved
  · rw [h]
    exact saved.after_block hwhole hblock hsteps hvalid hexported

lemma submit (saved : Saved config node) {time : Instant} (hwhole : time.IsWhole) (submission : Submission) :
    Saved config ((submission.deliver time).after node) := by
  rw [NodeAction.after]
  rcases saved.toSound.submit time submission with ⟨e, h⟩ | ⟨block, ledger, state, hblock, hsteps, hvalid, hexported, h⟩
  · rw [h]
    exact saved
  · rw [h]
    exact saved.after_block hwhole hblock hsteps hvalid hexported

lemma importGenesis (saved : Saved config node) (imported : GenesisState) :
    Saved config ((Node.importGenesis imported).after node) := by
  rw [NodeAction.after]
  rcases saved.toSound.importGenesis imported with ⟨e, h⟩ | ⟨_, ledger, state, himported, _, hvalid, hexported, h⟩
  · rw [h]
    exact saved
  · rw [h]
    have hsound := himported.sound saved.toSound
    exact hsound.saved_written saved.whole saved.shows (.of_apply himported.filled) hvalid hexported

end Saved

end Node

def Operation.IsTimed : Operation → Prop
  | deliver time _ => time.IsWhole
  | fund _ _ | importGenesis _ => True

instance : DecidablePred Operation.IsTimed
  | .deliver time _ => inferInstanceAs (Decidable time.IsWhole)
  | .fund _ _ | .importGenesis _ => isTrue trivial

lemma Node.Saved.apply {config : NodeConfig} {node : Node} (saved : Saved config node) {op : Operation}
    (timed : op.IsTimed) : Saved config (op.apply node) := by
  cases op with
  | fund player amount => exact saved.fund player amount
  | importGenesis state => exact saved.importGenesis state
  | deliver time submission => exact saved.submit timed submission

lemma Node.Saved.run {config : NodeConfig} {node : Node} (saved : Saved config node) {operations : List Operation}
    (timed : ∀ op ∈ operations, op.IsTimed) : Saved config (Operation.run operations node) := by
  induction operations generalizing node with
  | nil => exact saved
  | cons op rest ih =>
    obtain ⟨hop, hrest⟩ := List.forall_mem_cons.mp timed
    exact ih (saved.apply hop) hrest

namespace Sample

def opened : Node :=
  ⟨.genesis .epoch, ⟨⟨codec, "rps10d07y265gmmuvt4z0w9aw880jnsr700jyg0p5n", .initial, .failFast, .empty⟩, .new "rps"⟩,
    .empty⟩

lemma restore_empty : Node.restore .initial .empty = .ok opened := by decide +kernel

end Sample

end Roshambo
