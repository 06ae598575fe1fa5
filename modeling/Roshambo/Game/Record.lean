import Roshambo.Block
import Roshambo.Game.Commitment

namespace Roshambo

abbrev GameId := UInt64

def maxPlayers : Nat := 2

/-- The reveal deadline is set by the first reveal. -/
structure Game where
  id : GameId
  entryFee : Amount
  commitDeadline : Instant
  revealDeadline : Option Instant
  deriving DecidableEq

structure MoveCommit where
  commitment : Commitment
  createdAt : Instant
  deriving DecidableEq

structure MoveReveal where
  move : Move
  salt : String
  createdAt : Instant
  deriving DecidableEq

inductive Phase
  | waiting
  | committed
  | revealing
  deriving DecidableEq

namespace Game

def prize? (game : Game) : Option Amount := game.entryFee.times? maxPlayers

def commitClosed (game : Game) (now : Instant) : Bool := game.commitDeadline < now

def revealClosed (game : Game) (now : Instant) : Bool := game.revealDeadline.any (· < now)

def toJson (game : Game) : Json :=
  .record [("id", .ofWord game.id), ("entry_fee", game.entryFee.toJson),
    ("commit_deadline", game.commitDeadline.toJson),
    ("reveal_deadline", .ofOption Instant.toJson game.revealDeadline)]

def ofJson? (j : Json) : Option Game := do
  let [id, fee, commit, reveal] ← j.fields? ["id", "entry_fee", "commit_deadline", "reveal_deadline"] 4 | none
  return ⟨← id.bind Json.word?, ← fee.bind Amount.ofJson?, ← commit.bind Instant.ofJson?,
    ← Json.nullable? Instant.ofJson? (reveal.getD .null)⟩

end Game

namespace MoveCommit

def members (c : MoveCommit) : List (String × Json) :=
  [("commitment", c.commitment.toJson), ("created_at", c.createdAt.toJson)]

def toJson (c : MoveCommit) : Json := .record c.members

def ofJson? (j : Json) : Option MoveCommit := do
  let [commitment, created] ← j.fields? ["commitment", "created_at"] 2 | none
  return ⟨← commitment.bind Commitment.ofJson?, ← created.bind Instant.ofJson?⟩

end MoveCommit

namespace MoveReveal

def members (r : MoveReveal) : List (String × Json) :=
  [("move", r.move.toJson), ("salt", .ofText r.salt), ("created_at", r.createdAt.toJson)]

def toJson (r : MoveReveal) : Json := .record r.members

def ofJson? (j : Json) : Option MoveReveal := do
  let [move, salt, created] ← j.fields? ["move", "salt", "created_at"] 3 | none
  return ⟨← move.bind Move.ofJson?, ← salt.bind Json.text?, ← created.bind Instant.ofJson?⟩

end MoveReveal

namespace Phase

def ofCounts (commits reveals : Nat) : Phase :=
  if commits < maxPlayers then waiting else if reveals = 0 then committed else revealing

def label : Phase → String
  | waiting => "Open"
  | committed => "Committed"
  | revealing => "Revealing"

def ofLabel? (text : String) : Option Phase := [waiting, committed, revealing].find? (·.label = text)

def toJson (p : Phase) : Json := .ofText p.label

def ofJson? (j : Json) : Option Phase := j.label?.bind ofLabel?

end Phase

end Roshambo
