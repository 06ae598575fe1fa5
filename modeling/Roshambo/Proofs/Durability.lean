import Roshambo.Proofs.Restarts

namespace Roshambo

variable {κ ν : Type}

lemma SortedMap.insert_of_only [Ord κ] [Std.LawfulEqOrd κ] [Std.TransOrd κ] [DecidableEq κ] {m : SortedMap κ ν} {k : κ}
    (only : ∀ k' v, m.get? k' = some v → k' = k) (v : ν) : m.insert k v = (∅ : SortedMap κ ν).insert k v := by
  apply ext_get?
  intro k'
  rw [get?_insert, get?_insert]
  split
  · rfl
  · rename_i hne
    cases hstored : m.get? k' with
    | none => rfl
    | some v' => exact (hne (only k' v' hstored)).elim

namespace Database

variable {db : Database} {rows rows' : SortedMap String Int64} {balances : SortedMap Address Amount}
  {accounts after : Accounts} {name : String}

structure BelongsTo (db : Database) (owner name : String) : Prop where
  pools : ∀ key row, db.pools.get? key = some row → key = owner
  states : ∀ key row, db.states.get? key = some row → key = name

lemma ShowsBalances.unique (h : ShowsBalances rows balances) (h' : ShowsBalances rows' balances) : rows = rows' :=
  SortedMap.ext_get? fun text => Option.ext fun row => (h text row).trans (h' text row).symm

namespace BelongsTo

lemma empty (owner name : String) : Database.empty.BelongsTo owner name where
  pools _ _ hstored := by cases hstored
  states _ _ hstored := by cases hstored

lemma saveAccounts (own : db.BelongsTo after.owner name) : (db.saveAccounts after).BelongsTo after.owner name where
  pools key row hstored := by
    simp only [Database.saveAccounts, SortedMap.get?_insert] at hstored
    split at hstored
    · rename_i hkey
      exact hkey
    · exact own.pools key row hstored
  states := own.states

lemma saveSnapshot (own : db.BelongsTo after.owner name) (block : Block) (text : String) :
    (db.saveSnapshot block after name text).BelongsTo after.owner name where
  pools := own.saveAccounts.pools
  states key row hstored := by
    simp only [Database.saveSnapshot, saveState, SortedMap.get?_insert] at hstored
    split at hstored
    · rename_i hkey
      exact hkey
    · exact own.states key row hstored

end BelongsTo

lemma saveSnapshot_eq (shows : db.Shows accounts) (grows : accounts.Grows after) (own : db.BelongsTo after.owner name)
    (block : Block) (text : String) :
    db.saveSnapshot block after name text = Database.empty.saveSnapshot block after name text := by
  have haccounts : (db.saveAccounts after).accounts = (Database.empty.saveAccounts after).accounts :=
    (shows.balances.save grows.listed).unique (ShowsBalances.empty.save fun _ hlisted => nomatch hlisted)
  have hpools : (db.saveAccounts after).pools = (Database.empty.saveAccounts after).pools :=
    SortedMap.insert_of_only own.pools _
  have hstates : ∀ row, db.states.insert name row = Database.empty.states.insert name row :=
    SortedMap.insert_of_only own.states
  simp only [saveSnapshot, saveState, saveClock, mk.injEq]
  exact ⟨rfl, haccounts, hpools, hstates _⟩

end Database

namespace Node

variable {config : NodeConfig} {node next : Node}

inductive Reachable (config : NodeConfig) : Node → Prop
  | opened {node : Node} (found : restore config .empty = .ok node) : Reachable config node
  | operated {node : Node} (reachable : Reachable config node) (op : Operation) : Reachable config (op.apply node)
  | reopened {node next : Node} (reachable : Reachable config node)
      (found : restore config node.database = .ok next) : Reachable config next

inductive Effect (node : Node) : Node → Prop
  | refused : Effect node node
  | funded {address : Address} {amount : Amount} {accounts : Accounts}
      (minted : node.accounts.mint address amount = .ok accounts) :
      Effect node
        { node with
          ledger := { node.ledger with bank := accounts }
          database := node.database.saveAccounts accounts }
  | block {time : Instant} {block : Block} {ledger : Ledger Bech32Codec Accounts} {state : GenesisState}
      (due : node.last.next time = .ok block) (steps : Steps node.ledger ledger) (valid : state.Valid)
      (exported : ledger.keeper.Exported state) : Effect node (written ⟨block, ledger, node.database⟩ state)
  | imported {imported : GenesisState} {stakes : Amount} {ledger : Ledger Bech32Codec Accounts} {state : GenesisState}
      (accepted : node.Imported imported stakes ledger) (valid : state.Valid)
      (exported : ledger.keeper.Exported state) : Effect node (written ⟨node.last, ledger, node.database⟩ state)

lemma Sound.effect (sound : Sound config node) (op : Operation) : Effect node (op.apply node) := by
  cases op with
  | fund text amount =>
    rw [Operation.apply]
    rcases fund_after node text amount with h | ⟨_, accounts, hmint, h⟩ <;> rw [h]
    · exact .refused
    · exact .funded hmint
  | deliver time submission =>
    rw [Operation.apply, NodeAction.after]
    rcases sound.submit time submission with ⟨e, h⟩ | ⟨block, ledger, state, hblock, hsteps, hvalid, hexported, h⟩ <;>
      rw [h]
    · exact .refused
    · exact .block hblock hsteps hvalid hexported
  | importGenesis imported =>
    rw [Operation.apply, NodeAction.after]
    rcases sound.importGenesis imported with ⟨e, h⟩ | ⟨stakes, ledger, state, himported, _, hvalid, hexported, h⟩ <;>
      rw [h]
    · exact .refused
    · exact .imported himported hvalid hexported

def snapshot (node : Node) (state : GenesisState) : Database :=
  Database.empty.saveSnapshot node.last node.accounts moduleName state.text

structure Kept (config : NodeConfig) (node : Node) : Prop extends Sound config node where
  shows : node.database.Shows node.accounts
  own : node.database.BelongsTo node.accounts.owner moduleName
  keeper : ∃ fresh state, Keeper.new node.codec node.keeper.authority config.game = .ok fresh ∧
    node.database.loadState GenesisState.ofJson? moduleName = .ok state ∧ fresh.resume state = .ok node.keeper

namespace Kept

lemma of_restore_empty (found : restore config .empty = .ok node) : Kept config node := by
  have saved := saved_of_restore_empty found
  refine { toSound := saved.toSound, shows := saved.shows, own := ?own, keeper := saved.keeper }
  rw [(restore_eq_ok_iff.mp found).database]
  exact .empty _ _

lemma written (kept : Kept config node) {last : Block} {ledger : Ledger Bech32Codec Accounts}
    (sound : Sound config ⟨last, ledger, node.database⟩) (grows : node.accounts.Grows ledger.bank)
    {state : GenesisState} (hvalid : state.Valid) (hexported : ledger.keeper.Exported state) :
    Kept config (Node.written ⟨last, ledger, node.database⟩ state) := by
  obtain ⟨fresh, hfresh, hresume⟩ := sound.resume_exported hvalid hexported
  have own : node.database.BelongsTo ledger.bank.owner moduleName := grows.owner ▸ kept.own
  have shows : (Node.mk last ledger node.database).database.Shows node.accounts := kept.shows
  exact
    { toSound := ⟨sound.owner, sound.codec, sound.authority, sound.policy, sound.fresh, sound.params, sound.wellFormed⟩
      shows := shows_written shows grows state
      own := own.saveSnapshot last state.text
      keeper := ⟨fresh, some state, hfresh, loadState_written state, hresume⟩ }

lemma written_database (kept : Kept config node) {last : Block} {ledger : Ledger Bech32Codec Accounts}
    (grows : node.accounts.Grows ledger.bank) (state : GenesisState) :
    (Node.written ⟨last, ledger, node.database⟩ state).database =
      (Node.written ⟨last, ledger, node.database⟩ state).snapshot state :=
  Database.saveSnapshot_eq kept.shows grows (grows.owner ▸ kept.own) last state.text

lemma after (kept : Kept config node) (effect : Effect node next) : Kept config next := by
  cases effect with
  | refused => exact kept
  | @funded _ _ accounts minted =>
    have hgrows := Accounts.Grows.of_mint minted
    have own : node.database.BelongsTo accounts.owner moduleName := hgrows.owner ▸ kept.own
    exact
      { owner := hgrows.owner.trans kept.owner, codec := kept.codec, authority := kept.authority,
        policy := kept.policy, fresh := kept.fresh, params := kept.params, wellFormed := kept.wellFormed,
        shows := kept.shows.saveAccounts hgrows, own := own.saveAccounts, keeper := kept.keeper }
  | @block _ block _ _ _ steps valid exported =>
    have hsound := kept.toSound.of_akin block steps.akin steps.grows (steps.params_valid kept.params)
      (steps.wellFormed kept.wellFormed) node.database
    exact kept.written hsound steps.grows valid exported
  | imported accepted valid exported =>
    exact kept.written (accepted.sound kept.toSound) (.of_apply accepted.filled) valid exported

lemma reopen (kept : Kept config node) (found : restore config node.database = .ok next) :
    next.ledger = node.ledger ∧ next.database = node.database := by
  have hfound := restore_eq_ok_iff.mp found
  have hcodec : next.codec = node.codec := Except.ok.inj (hfound.codec.symm.trans kept.codec)
  have hauthority : next.keeper.authority = node.keeper.authority :=
    Except.ok.inj (hfound.authority.symm.trans kept.authority)
  have haccounts : next.accounts = node.accounts := by
    have hload := hfound.accounts
    rw [← kept.owner, kept.shows.loadAccounts] at hload
    exact (Except.ok.inj hload).symm
  have hkeeper : next.keeper = node.keeper := by
    obtain ⟨fresh, state, hfresh, hstate, hresume⟩ := kept.keeper
    obtain ⟨fresh', state', hfresh', hstate', hresume'⟩ := hfound.keeper
    rw [hcodec, hauthority] at hfresh'
    obtain rfl := Except.ok.inj (hfresh.symm.trans hfresh')
    obtain rfl := Except.ok.inj (hstate.symm.trans hstate')
    exact Except.ok.inj (hresume'.symm.trans hresume)
  exact ⟨congrArg₂ Ledger.mk hkeeper haccounts, hfound.database⟩

lemma reopened (kept : Kept config node) (found : restore config node.database = .ok next) : Kept config next := by
  obtain ⟨hledger, hdatabase⟩ := kept.reopen found
  obtain ⟨last, ledger, database⟩ := next
  obtain rfl : ledger = node.ledger := hledger
  obtain rfl : database = node.database := hdatabase
  exact
    { toSound := sound_of_restore found, shows := kept.shows, own := kept.own, keeper := kept.keeper }

end Kept

lemma Reachable.kept (reachable : node.Reachable config) : Kept config node := by
  induction reachable with
  | opened found => exact .of_restore_empty found
  | operated _ op ih => exact ih.after (ih.toSound.effect op)
  | reopened _ found ih => exact ih.reopened found

end Node

inductive Transaction.Single {β : Type} [AddressCodec κ] [Bank β] : {α : Type} → (Block → Transaction κ β α) → Prop
  | nothing : Single fun _ => (pure () : Transaction κ β Unit)
  | startGame (player : String) (commitment : Commitment) (fee : Amount) :
      Single fun block => startGame block player commitment fee
  | commitMove (id : GameId) (player : String) (commitment : Commitment) :
      Single fun block => commitMove block id player commitment
  | revealMove (id : GameId) (player label salt : String) : Single fun block => revealMove block id player label salt
  | updateParams (authority : String) (params : Params) : Single fun _ => updateParams authority params

lemma Transaction.Single.orderly {α β : Type} [AddressCodec κ] [Bank β] {tx : Block → Transaction κ β α}
    (single : Single tx) (block : Block) : (tx block).Orderly := by
  cases single with
  | nothing => exact orderly_pure ()
  | startGame player commitment fee => exact orderly_startGame block player commitment fee
  | commitMove id player commitment => exact orderly_commitMove block id player commitment
  | revealMove id player label salt => exact orderly_revealMove block id player label salt
  | updateParams authority params => exact orderly_updateParams authority params

namespace Node

variable {config : NodeConfig} {node next : Node} {α : Type} {tx : Block → Transaction Bech32Codec Accounts α}
  {time : Instant}

end Node

namespace Sample

def funded : Node := (Operation.fund "rps1qvdrtkhs" ⟨7⟩).apply opened

lemma funded_reachable : funded.Reachable .initial := .operated (.opened restore_empty) _

end Sample

end Roshambo
