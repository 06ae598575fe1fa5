import Roshambo.Game.Error
import Roshambo.Genesis.State
import Roshambo.SortedMap

namespace Roshambo.GenesisState

def checkGame (nextId : GameId) (seen : SortedMap GameId Game) (game : Game) :
    Except GenesisFault (SortedMap GameId Game) := do
  if nextId ≤ game.id then throw (.idNotBelowSequence game.id nextId)
  if game.entryFee = .zero then throw (.noEntryFee game.id)
  if game.prize?.isNone then throw (.prizeOverflow game.id)
  if seen.contains game.id then throw (.duplicateGame game.id)
  return seen.insert game.id game

def checkCommit (games : SortedMap GameId Game) (seen : List (GameId × String)) (record : CommitRecord) :
    Except GenesisFault (List (GameId × String)) := do
  if ¬ games.contains record.game then throw (.unknownGame record.game)
  if (record.game, record.player) ∈ seen then throw (.duplicateCommit record.player record.game)
  return (record.game, record.player) :: seen

def checkCount (commits : List (GameId × String)) (game : Game) : Except GenesisFault Unit := do
  let count := (commits.filter (·.1 = game.id)).length
  if count = 0 ∨ maxPlayers < count then throw (.commitCount game.id count)
  if game.revealDeadline.isSome ∧ count ≠ maxPlayers then throw (.earlyRevealDeadline game.id)

def checkReveal (games : SortedMap GameId Game) (commits seen : List (GameId × String)) (record : RevealRecord) :
    Except GenesisFault (List (GameId × String)) := do
  if (record.game, record.player) ∉ commits then throw (.revealWithoutCommit record.player record.game)
  if (record.game, record.player) ∈ seen then throw (.duplicateReveal record.player record.game)
  if ¬ (games.get? record.game).any (·.revealDeadline.isSome) then throw (.noRevealDeadline record.game)
  return (record.game, record.player) :: seen

def check (s : GenesisState) : Except GenesisFault Unit := do
  s.params.validate.mapError .params
  let games ← s.games.foldlM (checkGame s.nextId) ∅
  let commits ← s.commits.foldlM (checkCommit games) []
  games.values.forM (checkCount commits)
  let _ ← s.reveals.foldlM (checkReveal games commits) []

def validate (s : GenesisState) : Except GameError Unit := s.check.mapError .invalidGenesis

end Roshambo.GenesisState
