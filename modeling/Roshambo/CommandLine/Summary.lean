import Roshambo.CommandLine.Table
import Roshambo.Node.Basic

namespace Roshambo.CommandLine

def displayed (codec : Bech32Codec) (address : Address) : String :=
  match codec.encode address with
  | .ok text => text
  | .error _ => address.hex

def settlementLine (codec : Bech32Codec) (s : Settlement) : String :=
  let id := s.game.toNat
  match s.resolution with
  | .refunded player => s!"Game {id} expired, refunded {displayed codec player}"
  | .abandoned => s!"Game {id} abandoned, both stakes refunded"
  | .forfeit winner => s!"Game {id} forfeited, {displayed codec winner} wins"
  | .won winner _ winning losing =>
    s!"Game {id} won by {displayed codec winner} ({winning.label} beats {losing.label})"
  | .draw move => s!"Game {id} drawn ({move.label}), stakes refunded"
  | .empty => s!"Game {id} removed without payout"

def reportLines (codec : Bech32Codec) (r : SweepReport) : List String :=
  r.settled.map (settlementLine codec) ++
    r.deferred.map fun id => s!"Game {id.toNat} settlement deferred to the next block"

def windowLines (p : Params) : List String :=
  [s!"Commit window: {p.commitWindow.toNat}s", s!"Reveal window: {p.revealWindow.toNat}s"]

def accountTable (node : Node) : Table where
  header := ["Account", "Balance (sats)"]
  rows :=
    node.accounts.balances.entries.map (fun e => [displayed node.codec e.1, toString e.2]) ++
      [[s!"{node.accounts.owner} (pool)", toString node.accounts.pool]]

def phaseOf (store : GameStore) (id : GameId) : Phase := .ofCounts (store.commitCount id) (store.revealCount id)

def gameRow (store : GameStore) (game : Game) : List String :=
  [toString game.id.toNat, toString game.entryFee, s!"{store.commitCount game.id}/{maxPlayers}",
    toString (store.revealCount game.id), (phaseOf store game.id).label, game.commitDeadline.tabular,
    (game.revealDeadline.map Instant.tabular).getD "-"]

def gameTable (store : GameStore) : Table where
  header := ["Game ID", "Entry Fee (sats)", "Players", "Reveals", "Phase", "Commit Deadline", "Reveal Deadline"]
  rows := store.games.values.map (gameRow store)

def seatRow (codec : Bech32Codec) (reveals : List (Address × MoveReveal)) (seat : Address × MoveCommit) :
    List String :=
  let reveal := reveals.lookup seat.1
  [displayed codec seat.1, String.ofList (seat.2.commitment.text.toList.take 16) ++ "...",
    seat.2.createdAt.tabular, (reveal.map (·.move.label)).getD "hidden",
    (reveal.map (·.createdAt.tabular)).getD "-"]

def seatTable (codec : Bech32Codec) (store : GameStore) (id : GameId) : Table where
  header := ["Player", "Commitment", "Committed", "Move", "Revealed"]
  rows := (store.commitsOf id).map (seatRow codec (store.revealsOf id))

def gameLines (codec : Bech32Codec) (store : GameStore) (game : Game) : List String :=
  [s!"Game {game.id.toNat}", s!"Entry fee: {game.entryFee} sats", s!"Phase: {(phaseOf store game.id).label}",
    s!"Commit deadline: {game.commitDeadline.tabular}"] ++
    (game.revealDeadline.map fun t => s!"Reveal deadline: {t.tabular}").toList ++
    [""] ++ (seatTable codec store game.id).lines

end Roshambo.CommandLine
