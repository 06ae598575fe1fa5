import Roshambo.Game.Record
import Roshambo.Json.Printer
import Roshambo.Json.Reader
import Roshambo.Params

namespace Roshambo

structure CommitRecord where
  game : GameId
  player : String
  commit : MoveCommit
  deriving DecidableEq

structure RevealRecord where
  game : GameId
  player : String
  reveal : MoveReveal
  deriving DecidableEq

structure GenesisState where
  params : Params
  nextId : GameId
  games : List Game
  commits : List CommitRecord
  reveals : List RevealRecord
  deriving DecidableEq

namespace CommitRecord

def toJson (r : CommitRecord) : Json :=
  .record ([("game_id", .ofWord r.game), ("player", .ofText r.player)] ++ r.commit.members)

def ofJson? (depth : Nat) (j : Json) : Option CommitRecord := do
  let [game, player, commitment, created] ←
    j.keptFields? ["game_id", "player", "commitment", "created_at"] depth | none
  return ⟨← game.bind Json.word?, ← player.bind Json.text?,
    ← commitment.bind Commitment.ofJson?, ← created.bind Instant.ofJson?⟩

end CommitRecord

namespace RevealRecord

def toJson (r : RevealRecord) : Json :=
  .record ([("game_id", .ofWord r.game), ("player", .ofText r.player)] ++ r.reveal.members)

def ofJson? (depth : Nat) (j : Json) : Option RevealRecord := do
  let [game, player, move, salt, created] ←
    j.keptFields? ["game_id", "player", "move", "salt", "created_at"] depth | none
  return ⟨← game.bind Json.word?, ← player.bind Json.text?,
    ← move.bind Move.ofKeptJson?, ← salt.bind Json.text?, ← created.bind Instant.ofJson?⟩

end RevealRecord

namespace GenesisState

def toJson (s : GenesisState) : Json :=
  .record [("params", s.params.toJson), ("game_id", .ofWord s.nextId),
    ("games", .array (s.games.map Game.toJson)), ("move_commits", .array (s.commits.map CommitRecord.toJson)),
    ("move_reveals", .array (s.reveals.map RevealRecord.toJson))]

def ofJson? (j : Json) : Option GenesisState := do
  let [params, nextId, games, commits, reveals] ←
    j.fields? ["params", "game_id", "games", "move_commits", "move_reveals"] 2 | none
  return ⟨← params.bind Params.ofJson?, ← nextId.bind Json.word?,
    ← games.elim (some []) (Json.list? Game.ofJson?),
    ← commits.elim (some []) (Json.list? (CommitRecord.ofJson? 2)),
    ← reveals.elim (some []) (Json.list? (RevealRecord.ofJson? 2))⟩

def text (s : GenesisState) : String := s.toJson.compact

def ofText? (text : String) : Option GenesisState := (Json.parse? text).bind ofJson?

end GenesisState

end Roshambo
