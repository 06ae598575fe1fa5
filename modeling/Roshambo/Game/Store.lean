import Roshambo.Address.Basic
import Roshambo.Game.Record
import Roshambo.SortedMap

/-! Commits and reveals are kept by seat, and seats are ordered by their game first, so the records of one game stand
together. -/

namespace Roshambo

structure Seat where
  game : GameId
  player : Address
  deriving DecidableEq

namespace Seat

instance : Ord Seat := ⟨compareLex (compareOn game) (compareOn player)⟩

instance : Std.TransOrd Seat :=
  inferInstanceAs (Std.TransCmp (compareLex (compareOn game) (compareOn player)))

instance : Std.LawfulEqOrd Seat where
  eq_of_compare {a b} h := by
    cases a; cases b
    obtain ⟨hg, hp⟩ := compareLex_eq_eq.mp h
    exact congr (congrArg mk (Std.LawfulEqOrd.eq_of_compare hg)) (Std.LawfulEqOrd.eq_of_compare hp)

end Seat

structure GameStore where
  nextId : GameId
  games : SortedMap GameId Game
  commits : SortedMap Seat MoveCommit
  reveals : SortedMap Seat MoveReveal
  deriving DecidableEq

namespace GameStore

def empty : GameStore := ⟨0, ∅, ∅, ∅⟩

instance : Inhabited GameStore := ⟨empty⟩

def allocate? (store : GameStore) : Option (GameId × GameStore) :=
  if store.nextId.toNat + 1 < UInt64.size then
    some (store.nextId, { store with nextId := store.nextId + 1 })
  else none

def game? (store : GameStore) (id : GameId) : Option Game := store.games.get? id

def ofGame {ν : Type} (records : SortedMap Seat ν) (id : GameId) : List (Address × ν) :=
  (records.scan ⟨id, ⟨[]⟩⟩ fun seat => seat.game = id).map fun e => (e.1.player, e.2)

def commitsOf (store : GameStore) (id : GameId) : List (Address × MoveCommit) := ofGame store.commits id

def revealsOf (store : GameStore) (id : GameId) : List (Address × MoveReveal) := ofGame store.reveals id

def commitCount (store : GameStore) (id : GameId) : Nat := (store.commitsOf id).length

def revealCount (store : GameStore) (id : GameId) : Nat := (store.revealsOf id).length

def commit? (store : GameStore) (id : GameId) (player : Address) : Option MoveCommit :=
  store.commits.get? ⟨id, player⟩

def hasCommit (store : GameStore) (id : GameId) (player : Address) : Bool := store.commits.contains ⟨id, player⟩

def hasReveal (store : GameStore) (id : GameId) (player : Address) : Bool := store.reveals.contains ⟨id, player⟩

def setGame (store : GameStore) (game : Game) : GameStore :=
  { store with games := store.games.insert game.id game }

def setCommit (store : GameStore) (id : GameId) (player : Address) (commit : MoveCommit) : GameStore :=
  { store with commits := store.commits.insert ⟨id, player⟩ commit }

def setReveal (store : GameStore) (id : GameId) (player : Address) (reveal : MoveReveal) : GameStore :=
  { store with reveals := store.reveals.insert ⟨id, player⟩ reveal }

def vacate (store : GameStore) (seat : Seat) : GameStore :=
  { store with commits := store.commits.erase seat, reveals := store.reveals.erase seat }

def playersOf (store : GameStore) (id : GameId) : List Address :=
  (store.commitsOf id).map (·.1) ++ (store.revealsOf id).map (·.1)

def removeGame (store : GameStore) (id : GameId) : GameStore :=
  let cleared := (store.playersOf id).foldl (fun s player => s.vacate ⟨id, player⟩) store
  { cleared with games := cleared.games.erase id }

end GameStore

end Roshambo
