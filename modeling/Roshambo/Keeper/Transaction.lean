import Roshambo.Bank.Basic
import Roshambo.Keeper.Basic

/-! A call checks first, then moves the stake, then writes its records; what it has written by the time it fails stays
written. -/

namespace Roshambo

structure Ledger (κ β : Type) where
  keeper : Keeper κ
  bank : β
  deriving DecidableEq

abbrev Transaction (κ β α : Type) := EStateM GameError (Ledger κ β) α

namespace Keeper

variable {κ : Type} [AddressCodec κ]

def duration (window : UInt64) : Except GameError Nat :=
  match Params.duration? window with
  | some seconds => .ok seconds
  | none => .error (.overflow s!"window of {window.toNat} seconds")

def deadline (now : Instant) (window : UInt64) (what : String) : Except GameError Instant := do
  let some closing := now.add? (← duration window) | throw (.overflow what)
  return closing

def admitStart (keeper : Keeper κ) (now : Instant) (player : String) (fee : Amount) :
    Except GameError (Address × Instant) := do
  if fee = .zero then throw .invalidStake
  let creator ← keeper.resolve player
  let closing ← deadline now keeper.params.commitWindow "commit deadline"
  if fee.times? maxPlayers = none then throw (.overflow "prize for entry fee")
  if keeper.store.allocate?.isNone then throw (.overflow "game id sequence exhausted")
  return (creator, closing)

def admitCommit (keeper : Keeper κ) (now : Instant) (id : GameId) (player : String) :
    Except GameError (Address × Amount) := do
  let joiner ← keeper.resolve player
  let game ← keeper.findGame id
  if maxPlayers ≤ keeper.store.commitCount id then throw (.gameFull id)
  if game.commitClosed now then throw (.commitWindowClosed id)
  if keeper.store.hasCommit id joiner then throw (.alreadyCommitted id)
  return (joiner, game.entryFee)

def admitReveal (keeper : Keeper κ) (now : Instant) (id : GameId) (player label salt : String) :
    Except GameError (Address × Move × Game) := do
  let player ← keeper.resolve player
  let some move := Move.ofLabel? label | throw (.invalidMove label)
  let game ← keeper.findGame id
  if game.revealClosed now then throw (.revealWindowClosed id)
  let some commit := keeper.store.commit? id player | throw (.notCommitted id)
  if keeper.store.commitCount id ≠ maxPlayers then throw (.gameNotFull id)
  if keeper.store.hasReveal id player then throw (.alreadyRevealed id)
  if ¬ commit.commitment.opensTo move salt then throw (.commitmentMismatch id)
  return (player, move, game)

end Keeper

namespace Transaction

variable {κ β : Type} [AddressCodec κ] [Bank β]

def check {α : Type} : Except GameError α → Transaction κ β α
  | .ok a => pure a
  | .error e => throw e

def keeper : Transaction κ β (Keeper κ) := return (← get).keeper

def modifyStore (f : GameStore → GameStore) : Transaction κ β Unit :=
  modify fun l => { l with keeper := { l.keeper with store := f l.keeper.store } }

def stake (payer : Address) (amount : Amount) : Transaction κ β Unit := do
  let ledger ← get
  match Bank.deposit ledger.bank payer amount with
  | .ok bank => set { ledger with bank := bank }
  | .error e => throw (.ofLedger e)

def allocateId : Transaction κ β GameId := do
  let some (id, store) := (← keeper).store.allocate? | throw (.overflow "game id sequence exhausted")
  modifyStore fun _ => store
  return id

def startGame (block : Block) (player : String) (commitment : Commitment) (fee : Amount) :
    Transaction κ β GameId := do
  let (creator, closing) ← check ((← keeper).admitStart block.time player fee)
  stake creator fee
  let id ← allocateId
  modifyStore fun store => store.setGame ⟨id, fee, closing, none⟩
  modifyStore fun store => store.setCommit id creator ⟨commitment, block.time⟩
  return id

def commitMove (block : Block) (id : GameId) (player : String) (commitment : Commitment) :
    Transaction κ β Unit := do
  let (joiner, fee) ← check ((← keeper).admitCommit block.time id player)
  stake joiner fee
  modifyStore fun store => store.setCommit id joiner ⟨commitment, block.time⟩

def revealMove (block : Block) (id : GameId) (player label salt : String) : Transaction κ β Unit := do
  let (player, move, game) ← check ((← keeper).admitReveal block.time id player label salt)
  if game.revealDeadline.isNone then
    let closing ← check (Keeper.deadline block.time (← keeper).params.revealWindow "reveal deadline")
    modifyStore fun store => store.setGame { game with revealDeadline := some closing }
  modifyStore fun store => store.setReveal id player ⟨move, salt, block.time⟩

def updateParams (authority : String) (params : Params) : Transaction κ β Unit := do
  let ledger ← get
  let keeper ← check (ledger.keeper.updateParams authority params)
  set { ledger with keeper := keeper }

end Transaction

end Roshambo
