import Roshambo.Bank.Basic

/-! A bank that can freeze accounts: a batch that would pay a frozen account is refused as a whole. -/

namespace Roshambo

structure Freezable (β : Type) where
  bank : β
  frozen : List Address
  deriving DecidableEq

namespace Freezable

variable {β : Type}

def refusal : LedgerError := .internal "recipient account frozen"

def isFrozen (b : Freezable β) (address : Address) : Bool := b.frozen.contains address

def freeze (b : Freezable β) (address : Address) : Freezable β := { b with frozen := address :: b.frozen }

def thaw (b : Freezable β) (address : Address) : Freezable β :=
  { b with frozen := b.frozen.filter (· ≠ address) }

instance [Bank β] : Bank (Freezable β) where
  deposit b payer amount := return { b with bank := ← Bank.deposit b.bank payer amount }
  payOut b payouts :=
    if payouts.any (b.isFrozen ·.recipient) then .error refusal
    else return { b with bank := ← Bank.payOut b.bank payouts }

end Freezable

end Roshambo
