import Roshambo.Genesis.Import
import Roshambo.Node.Config
import Roshambo.Node.Database
import Roshambo.Settlement.Round

namespace Roshambo

structure Node where
  last : Block
  ledger : Ledger Bech32Codec Accounts
  database : Database
  deriving DecidableEq

abbrev NodeAction (α : Type) := EStateM Failure Node α

/-- A block that was accepted. A round that failed does not undo its transaction. -/
structure Delivery (α : Type) where
  block : Block
  output : α
  round : Except GameError SweepReport

def Delivery.report {α : Type} (d : Delivery α) : Except Failure SweepReport :=
  d.round.mapError fun e => (Failure.ofGame e).within s!"settling block {d.block.height.toNat}"

inductive PoolAdjustment
  | matched
  | minted (amount : Amount)
  | surplus (amount : Amount)
  deriving DecidableEq

def PoolAdjustment.between (pool stakes : Amount) : PoolAdjustment :=
  if pool < stakes then .minted ⟨stakes.sats - pool.sats⟩
  else if stakes < pool then .surplus ⟨pool.sats - stakes.sats⟩
  else .matched

namespace Node

def moduleName : String := "rps"

def keeper (node : Node) : Keeper Bech32Codec := node.ledger.keeper

def accounts (node : Node) : Accounts := node.ledger.bank

def codec (node : Node) : Bech32Codec := node.keeper.codec

def restore (config : NodeConfig) (database : Database) : Except Failure Node := do
  let last ← database.loadClock.mapError Failure.ofLedger
  let accounts ← (database.loadAccounts config.ledger.moduleAccount).mapError Failure.ofLedger
  let codec ← config.ledger.codec.mapError Failure.ofLedger
  let authority ← config.ledger.authorityText.mapError Failure.ofLedger
  let keeper ← (Keeper.new codec authority config.game).mapError Failure.ofGame
  let state ← (database.loadState GenesisState.ofJson? moduleName).mapError Failure.ofLedger
  let keeper ← match state with
    | none => pure keeper
    | some state => (keeper.initGenesis state).mapError fun e =>
      (Failure.ofGame e).within "loading persisted game state"
  return ⟨last.getD (.genesis .epoch), ⟨keeper, accounts⟩, database⟩

def address (node : Node) (text : String) : Except LedgerError Address := node.codec.decode text

def balance (node : Node) (text : String) : Except LedgerError Amount :=
  return node.accounts.balance (← node.address text)

def onLedger {α : Type} : Except LedgerError α → NodeAction α
  | .ok a => pure a
  | .error e => throw (.ofLedger e)

def onGame {α : Type} : Except GameError α → NodeAction α
  | .ok a => pure a
  | .error e => throw (.ofGame e)

def transact {α : Type} (tx : Transaction Bech32Codec Accounts α) : NodeAction (Except GameError α) := fun node =>
  match tx node.ledger with
  | .ok a ledger => .ok (.ok a) { node with ledger := ledger }
  | .error e ledger => .ok (.error e) { node with ledger := ledger }

def persist : NodeAction Unit := do
  let node ← get
  let state ← onGame node.keeper.exportGenesis
  set { node with database := node.database.saveSnapshot node.last node.accounts moduleName state.text }

def fund (text : String) (amount : Amount) : NodeAction Amount := do
  let node ← get
  let address ← onLedger (node.address text)
  let accounts ← onLedger (node.accounts.mint address amount)
  set { node with
    ledger := { node.ledger with bank := accounts }
    database := node.database.saveAccounts accounts }
  return accounts.balance address

def deliver {α : Type} (time : Instant) (tx : Block → Transaction Bech32Codec Accounts α) :
    NodeAction (Delivery α) := do
  let block ← onLedger ((← get).last.next time)
  let output ← onGame (← transact (tx block))
  modify fun node => { node with last := block }
  let round ← transact (Transaction.endRound block)
  persist
  return ⟨block, output, round⟩

def importGenesis (state : GenesisState) : NodeAction PoolAdjustment := do
  let node ← get
  let fresh ← onGame (Keeper.new node.codec node.keeper.authority ⟨state.params, node.keeper.policy⟩)
  let keeper ← onGame (fresh.initGenesis state)
  let stakes ← onGame keeper.outstandingStakes
  let adjustment := PoolAdjustment.between node.accounts.pool stakes
  let accounts ← match adjustment with
    | .minted amount => onLedger (node.accounts.mintPool amount)
    | _ => pure node.accounts
  set { node with ledger := ⟨keeper, accounts⟩ }
  persist
  return adjustment

def pending (node : Node) (time : Instant) : Except GameError (GameStore × List Settlement) :=
  Settlement.sweep time node.keeper.store

end Node

end Roshambo
