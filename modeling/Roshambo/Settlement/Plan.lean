import Roshambo.Game.Error
import Roshambo.Game.Store

namespace Roshambo

inductive Resolution
  | refunded (player : Address)
  | abandoned
  | forfeit (winner : Address)
  | won (winner loser : Address) (winning losing : Move)
  | draw (move : Move)
  | empty
  deriving DecidableEq

structure Settlement where
  game : GameId
  resolution : Resolution
  payouts : List Payout
  deriving DecidableEq

namespace Resolution

def members : Resolution → List (String × Json)
  | refunded player => [("outcome", .ofText "refunded"), ("player", player.toJson)]
  | abandoned => [("outcome", .ofText "abandoned")]
  | forfeit winner => [("outcome", .ofText "forfeit"), ("winner", winner.toJson)]
  | won winner loser winning losing =>
    [("outcome", .ofText "won"), ("winner", winner.toJson), ("loser", loser.toJson),
      ("winning_move", winning.toJson), ("losing_move", losing.toJson)]
  | draw move => [("outcome", .ofText "draw"), ("move", move.toJson)]
  | empty => [("outcome", .ofText "empty")]

end Resolution

namespace Settlement

def total? (s : Settlement) : Option Amount := Amount.sum? (s.payouts.map (·.amount))

def members (s : Settlement) : List (String × Json) :=
  [("game_id", .ofWord s.game), ("resolution", .record s.resolution.members),
    ("payouts", .array (s.payouts.map Payout.toJson))]

def unjoined (game : Game) : List (Address × MoveCommit) → Settlement
  | (player, _) :: _ => ⟨game.id, .refunded player, [⟨player, game.entryFee⟩]⟩
  | [] => ⟨game.id, .empty, []⟩

def showdown (game : Game) (prize : Amount) (first second : Address × MoveReveal) : Settlement :=
  match first.2.move.against second.2.move with
  | .draw => ⟨game.id, .draw first.2.move, [⟨first.1, game.entryFee⟩, ⟨second.1, game.entryFee⟩]⟩
  | .firstWins => ⟨game.id, .won first.1 second.1 first.2.move second.2.move, [⟨first.1, prize⟩]⟩
  | .secondWins => ⟨game.id, .won second.1 first.1 second.2.move first.2.move, [⟨second.1, prize⟩]⟩

def joined (game : Game) (prize : Amount) (commits : List (Address × MoveCommit)) :
    List (Address × MoveReveal) → Settlement
  | [] => ⟨game.id, .abandoned, commits.map fun c => ⟨c.1, game.entryFee⟩⟩
  | [(winner, _)] => ⟨game.id, .forfeit winner, [⟨winner, prize⟩]⟩
  | first :: second :: _ => showdown game prize first second

def plan (now : Instant) (store : GameStore) (game : Game) : Except GameError (Option Settlement) :=
  let commits := store.commitsOf game.id
  if commits.length < maxPlayers then
    .ok (if game.commitClosed now then some (unjoined game commits) else none)
  else match game.revealDeadline with
    | none => .ok none
    | some deadline =>
      let reveals := store.revealsOf game.id
      if reveals.length < maxPlayers ∧ now < deadline then .ok none
      else match game.prize? with
        | none => .error (.overflow s!"prize of game {game.id.toNat}")
        | some prize => .ok (some (joined game prize commits reveals))

def sweepStep (now : Instant) (store : GameStore) (done : GameStore × List Settlement) (game : Game) :
    Except GameError (GameStore × List Settlement) := do
  match ← plan now store game with
  | none => return done
  | some s => return (done.1.removeGame game.id, done.2 ++ [s])

def sweep (now : Instant) (store : GameStore) : Except GameError (GameStore × List Settlement) :=
  store.games.values.foldlM (sweepStep now store) (store, [])

end Settlement

end Roshambo
