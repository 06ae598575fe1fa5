import Roshambo.Bank.Accounts
import Roshambo.Block
import Roshambo.Json.Reader

/-! Rows are keyed by text exactly; saving sets rows and never removes one. Words are stored as signed integers of the
same bits, and block times in whole milliseconds. -/

namespace Roshambo

/-- The stored clock: a height and a time in milliseconds. -/
structure ClockRow where
  height : Int64
  millis : Int64
  deriving DecidableEq

structure StateRow where
  text : String
  height : Int64
  deriving DecidableEq

structure Database where
  clock : Option ClockRow
  accounts : SortedMap String Int64
  pools : SortedMap String Int64
  states : SortedMap String StateRow
  deriving DecidableEq

namespace Database

def empty : Database := ⟨none, ∅, ∅, ∅⟩

instance : Inhabited Database := ⟨empty⟩

def amountRow (a : Amount) : Int64 := a.sats.toInt64

def rowAmount (n : Int64) : Amount := ⟨n.toUInt64⟩

def saveAccounts (db : Database) (accounts : Accounts) : Database :=
  { db with
    pools := db.pools.insert accounts.owner (amountRow accounts.pool)
    accounts := accounts.balances.entries.foldl (fun rows e => rows.insert e.1.hex (amountRow e.2)) db.accounts }

def clockRow (block : Block) : ClockRow := ⟨block.height.toInt64, .ofInt block.time.millis⟩

def saveClock (db : Database) (block : Block) : Database := { db with clock := some (clockRow block) }

def saveState (db : Database) (owner : String) (height : UInt64) (text : String) : Database :=
  { db with states := db.states.insert owner ⟨text, height.toInt64⟩ }

def saveSnapshot (db : Database) (block : Block) (accounts : Accounts) (owner state : String) : Database :=
  ((db.saveClock block).saveAccounts accounts).saveState owner block.height state

def loadClock (db : Database) : Except LedgerError (Option Block) :=
  match db.clock with
  | none => .ok none
  | some row =>
    match Instant.ofMillis? row.millis.toInt with
    | some time => .ok (some ⟨row.height.toUInt64, time⟩)
    | none => .error (.internal s!"invalid block time {row.millis.toInt}")

def loadBalance (balances : SortedMap Address Amount) (row : String × Int64) :
    Except LedgerError (SortedMap Address Amount) := do
  return balances.insert (← Address.ofHex row.1) (rowAmount row.2)

def loadAccounts (db : Database) (owner : String) : Except LedgerError Accounts := do
  let balances ← db.accounts.entries.foldlM loadBalance ∅
  return ⟨owner, ((db.pools.get? owner).map rowAmount).getD .zero, balances⟩

def loadState {α : Type} (db : Database) (decode : Json → Option α) (owner : String) :
    Except LedgerError (Option α) :=
  match db.states.get? owner with
  | none => .ok none
  | some row =>
    match (Json.parse? row.text).bind decode with
    | some state => .ok (some state)
    | none => .error .malformedState

end Database

end Roshambo
