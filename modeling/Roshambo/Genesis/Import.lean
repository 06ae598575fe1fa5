import Roshambo.Genesis.Validation
import Roshambo.Keeper.Transaction

namespace Roshambo

variable {κ : Type} [AddressCodec κ]

namespace Keeper

def decodePlayer (codec : κ) (player : String) : Except GameError Address :=
  (AddressCodec.decode codec player).mapError fun e => .invalidGenesis (.unreadablePlayer player e)

def loadCommit (codec : κ) (store : GameStore) (record : CommitRecord) : Except GameError GameStore := do
  let player ← decodePlayer codec record.player
  if store.hasCommit record.game player then
    throw (.invalidGenesis (.duplicateCommit record.player record.game))
  return store.setCommit record.game player record.commit

def loadReveal (codec : κ) (store : GameStore) (record : RevealRecord) : Except GameError GameStore := do
  let player ← decodePlayer codec record.player
  if store.hasReveal record.game player then
    throw (.invalidGenesis (.duplicateReveal record.player record.game))
  return store.setReveal record.game player record.reveal

def initGenesis (keeper : Keeper κ) (state : GenesisState) : Except GameError (Keeper κ) := do
  state.validate
  let store := state.games.foldl GameStore.setGame { GameStore.empty with nextId := state.nextId }
  let store ← state.commits.foldlM (loadCommit keeper.codec) store
  let store ← state.reveals.foldlM (loadReveal keeper.codec) store
  return { keeper with params := state.params, store := store }

def encodePlayer (codec : κ) (player : Address) : Except GameError String :=
  (AddressCodec.encode codec player).mapError .ofLedger

def exportGenesis (keeper : Keeper κ) : Except GameError GenesisState := do
  let commits ← keeper.store.commits.entries.mapM fun (seat, commit) => do
    return ⟨seat.game, ← encodePlayer keeper.codec seat.player, commit⟩
  let reveals ← keeper.store.reveals.entries.mapM fun (seat, reveal) => do
    return ⟨seat.game, ← encodePlayer keeper.codec seat.player, reveal⟩
  return ⟨keeper.params, keeper.store.nextId, keeper.store.games.values, commits, reveals⟩

end Keeper

def Transaction.initGenesis {β : Type} (state : GenesisState) : Transaction κ β Unit := do
  let ledger ← get
  let keeper ← check (ledger.keeper.initGenesis state)
  set { ledger with keeper := keeper }

end Roshambo
