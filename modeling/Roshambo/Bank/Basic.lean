import Roshambo.Address.Basic

/-! Movements of money between players and the pool of stakes. Both are all-or-nothing: a refused movement has no
resulting bank. -/

namespace Roshambo

class Bank (β : Type) where
  deposit : β → Address → Amount → Except LedgerError β
  /-- Pays every entry out of the pool, as one unit. -/
  payOut : β → List Payout → Except LedgerError β

end Roshambo
