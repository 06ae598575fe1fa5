import Roshambo.LedgerConfig
import Roshambo.Node.Failure
import Roshambo.Json.Printer
import Roshambo.Json.Reader

namespace Roshambo

structure NodeConfig where
  ledger : LedgerConfig
  game : GameConfig
  deriving DecidableEq

namespace NodeConfig

def initial : NodeConfig := ⟨.initial, .initial⟩

def validate (c : NodeConfig) : Except Failure Unit := do
  c.ledger.validate.mapError Failure.ofLedger
  c.game.params.validate.mapError fun fault => .ofGame (.invalidParams fault)

def toJson (c : NodeConfig) : Json := .record [("ledger", c.ledger.toJson), ("game", c.game.toJson)]

def ofJson? (j : Json) : Option NodeConfig := do
  let [ledger, game] ← j.fields? ["ledger", "game"] 0 | none
  return ⟨← ledger.elim (some .initial) LedgerConfig.ofJson?, ← game.elim (some .initial) GameConfig.ofJson?⟩

def ofText? (text : String) : Option NodeConfig := (Json.parse? text).bind ofJson?

end NodeConfig

end Roshambo
