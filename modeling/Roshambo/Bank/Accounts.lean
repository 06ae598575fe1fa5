import Roshambo.Bank.Basic
import Roshambo.SortedMap

/-! Balances of accounts beside the pool of one module. An account that was written once stays listed. -/

namespace Roshambo

structure Accounts where
  owner : String
  pool : Amount
  balances : SortedMap Address Amount
  deriving DecidableEq

namespace Accounts

def new (owner : String) : Accounts := ⟨owner, .zero, ∅⟩

def balanceIn (balances : SortedMap Address Amount) (address : Address) : Amount :=
  (balances.get? address).getD .zero

def balance (accounts : Accounts) (address : Address) : Amount := balanceIn accounts.balances address

def orOverflow (what : String) : Option Amount → Except LedgerError Amount
  | some amount => .ok amount
  | none => .error (.overflow what)

def mint (accounts : Accounts) (recipient : Address) (amount : Amount) : Except LedgerError Accounts := do
  let updated ← orOverflow s!"minting {amount} sats to {recipient}" ((accounts.balance recipient).add? amount)
  return { accounts with balances := accounts.balances.insert recipient updated }

def mintPool (accounts : Accounts) (amount : Amount) : Except LedgerError Accounts := do
  return { accounts with pool := ← orOverflow "module pool balance" (accounts.pool.add? amount) }

def deposit (accounts : Accounts) (payer : Address) (amount : Amount) : Except LedgerError Accounts := do
  let available := accounts.balance payer
  let some remaining := available.sub? amount
    | throw (.insufficientFunds payer.hex amount available)
  let pool ← orOverflow "module pool balance" (accounts.pool.add? amount)
  return { accounts with pool := pool, balances := accounts.balances.insert payer remaining }

def credit (balances : SortedMap Address Amount) (payout : Payout) :
    Except LedgerError (SortedMap Address Amount) := do
  let updated ← orOverflow s!"balance of {payout.recipient}"
    ((balanceIn balances payout.recipient).add? payout.amount)
  return balances.insert payout.recipient updated

def payOut (accounts : Accounts) (payouts : List Payout) : Except LedgerError Accounts := do
  let total ← orOverflow "payout batch total" (Amount.sum? (payouts.map (·.amount)))
  let some pool := accounts.pool.sub? total
    | throw (.insufficientFunds accounts.owner total accounts.pool)
  let balances ← payouts.foldlM credit accounts.balances
  return { accounts with pool := pool, balances := balances }

instance : Bank Accounts := ⟨deposit, payOut⟩

def toJson (accounts : Accounts) : Json :=
  .record [("module", .ofText accounts.owner), ("pool", accounts.pool.toJson),
    ("balances", .record (accounts.balances.entries.map fun e => (e.1.hex, e.2.toJson)))]

/-- Balances by the text of their address; of two texts for one address the later stays. -/
def balancesOfJson? : Json → Option (SortedMap Address Amount)
  | .object members => do
    let entries ← members.mapM fun (key, value) => do
      return ((← (Address.ofHex (← key)).toOption), ← Amount.ofJson? value)
    return .ofList entries
  | _ => none

def ofJson? (j : Json) : Option Accounts := do
  let [owner, pool, balances] ← j.fields? ["module", "pool", "balances"] 3 | none
  return ⟨← owner.bind Json.text?, ← pool.bind Amount.ofJson?, ← balances.bind balancesOfJson?⟩

end Accounts

end Roshambo
