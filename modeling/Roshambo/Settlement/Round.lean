import Roshambo.Keeper.Transaction
import Roshambo.Settlement.Plan

/-! Every game that is due is paid out and removed, one after the other. A game whose payout is refused stays; the
policy says whether the round stops there or goes on. -/

namespace Roshambo

structure SweepReport where
  height : UInt64
  settled : List Settlement
  deferred : List GameId
  deriving DecidableEq

namespace SweepReport

def isEmpty (r : SweepReport) : Bool := r.settled.isEmpty && r.deferred.isEmpty

def settle (r : SweepReport) (s : Settlement) : SweepReport := { r with settled := r.settled ++ [s] }

def defer (r : SweepReport) (id : GameId) : SweepReport := { r with deferred := r.deferred ++ [id] }

end SweepReport

namespace Transaction

variable {κ β : Type} [AddressCodec κ] [Bank β]

def settleGame (now : Instant) (id : GameId) (ledger : Ledger κ β) :
    Except GameError (Option (Settlement × Ledger κ β)) := do
  let some game := ledger.keeper.store.game? id | return none
  let some s ← Settlement.plan now ledger.keeper.store game | return none
  let bank ← (Bank.payOut ledger.bank s.payouts).mapError (GameError.settlement id)
  return some (s, ⟨{ ledger.keeper with store := ledger.keeper.store.removeGame id }, bank⟩)

def settleGames (now : Instant) : List GameId → SweepReport → Transaction κ β SweepReport
  | [], report => pure report
  | id :: rest, report => do
    let ledger ← get
    match settleGame now id ledger with
    | .ok none => settleGames now rest report
    | .ok (some (s, ledger)) =>
      set ledger
      settleGames now rest (report.settle s)
    | .error e =>
      match ledger.keeper.policy with
      | .failFast => throw e
      | .deferFailed => settleGames now rest (report.defer id)

def endRound (block : Block) : Transaction κ β SweepReport := do
  settleGames block.time (← keeper).store.games.keys ⟨block.height, [], []⟩

end Transaction

end Roshambo
