import Roshambo.Address.Codec
import Roshambo.Game.Error
import Roshambo.Game.Store

namespace Roshambo

structure Keeper (κ : Type) where
  codec : κ
  authority : String
  params : Params
  policy : SettlementPolicy
  store : GameStore
  deriving DecidableEq

namespace Keeper

variable {κ : Type} [AddressCodec κ]

def checkParams (params : Params) : Except GameError Unit := params.validate.mapError .invalidParams

def new (codec : κ) (authority : String) (config : GameConfig) : Except GameError (Keeper κ) := do
  let _ ← (AddressCodec.decode codec authority).mapError fun e => .invalidAddress s!"authority: {e.message}"
  checkParams config.params
  return ⟨codec, authority, config.params, config.settlement, .empty⟩

def resolve (keeper : Keeper κ) (player : String) : Except GameError Address :=
  (AddressCodec.decode keeper.codec player).mapError fun e => .invalidAddress e.message

omit [AddressCodec κ] in
def findGame (keeper : Keeper κ) (id : GameId) : Except GameError Game :=
  match keeper.store.game? id with
  | some game => .ok game
  | none => .error (.gameNotFound id)

def addStake (store : GameStore) (total : Amount) (seat : Seat) : Except GameError Amount := do
  let some game := store.game? seat.game | throw (.invalidGenesis (.missingGame seat.game))
  let some total := total.add? game.entryFee | throw (.overflow "outstanding stakes")
  return total

omit [AddressCodec κ] in
def outstandingStakes (keeper : Keeper κ) : Except GameError Amount :=
  keeper.store.commits.keys.foldlM (addStake keeper.store) .zero

def updateParams (keeper : Keeper κ) (authority : String) (params : Params) : Except GameError (Keeper κ) := do
  let _ ← keeper.resolve authority
  if ¬ Text.sameLetters authority keeper.authority then
    throw (.unauthorized keeper.authority authority)
  checkParams params
  return { keeper with params := params }

end Keeper

end Roshambo
