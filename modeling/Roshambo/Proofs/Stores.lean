import Roshambo.Proofs.GenesisValidity
import Roshambo.Proofs.Payments

/-! The stores that writes lead to from the empty one are those in which every game stands under its own id. -/

namespace Roshambo

namespace GameStore

inductive Built : GameStore → Prop
  | empty : Built empty
  | sequence {store : GameStore} (built : Built store) (next : GameId) : Built { store with nextId := next }
  | game {store : GameStore} (built : Built store) (game : Game) : Built (store.setGame game)
  | commit {store : GameStore} (built : Built store) (id : GameId) (player : Address) (commit : MoveCommit) :
      Built (store.setCommit id player commit)
  | reveal {store : GameStore} (built : Built store) (id : GameId) (player : Address) (reveal : MoveReveal) :
      Built (store.setReveal id player reveal)
  | remove {store : GameStore} (built : Built store) (id : GameId) : Built (store.removeGame id)

variable {store : GameStore}

lemma OwnIds.setGame (ownIds : store.OwnIds) (game : Game) : (store.setGame game).OwnIds := by
  intro id game' hgame
  rw [game?_setGame] at hgame
  split at hgame
  · rename_i hid
    rw [hid, Option.some.inj hgame]
  · exact ownIds id game' hgame

lemma Built.ownIds (built : store.Built) : store.OwnIds := by
  induction built with
  | empty => exact fun _ _ hgame => nomatch hgame
  | sequence _ _ ih => exact ih
  | game _ game ih => exact ih.setGame game
  | commit _ _ _ _ ih => exact ih
  | reveal _ _ _ _ ih => exact ih
  | remove _ id ih =>
    rw [removeGame_eq_without]
    exact ih.without [id]

lemma Built.games (built : store.Built) (games : List Game) :
    Built { store with games := games.foldl (fun m g => m.insert g.id g) store.games } := by
  induction games generalizing store with
  | nil => exact built
  | cons g rest ih => exact ih (built.game g)

lemma Built.commits (built : store.Built) (entries : List (Seat × MoveCommit)) :
    Built { store with commits := entries.foldl (fun m e => m.insert e.1 e.2) store.commits } := by
  induction entries generalizing store with
  | nil => exact built
  | cons e rest ih => exact ih (built.commit e.1.game e.1.player e.2)

lemma Built.reveals (built : store.Built) (entries : List (Seat × MoveReveal)) :
    Built { store with reveals := entries.foldl (fun m e => m.insert e.1 e.2) store.reveals } := by
  induction entries generalizing store with
  | nil => exact built
  | cons e rest ih => exact ih (built.reveal e.1.game e.1.player e.2)

lemma OwnIds.gamesById_values (ownIds : store.OwnIds) : gamesById store.games.values = store.games := by
  have hnodup := store.games.keys_nodup
  rw [keys_eq_ids ownIds] at hnodup
  apply SortedMap.ext_get?
  intro id
  apply Option.ext
  intro game
  rw [gamesById_get? hnodup, SortedMap.mem_values]
  constructor
  · rintro ⟨⟨key, hgame⟩, rfl⟩
    rwa [ownIds key game hgame]
  · exact fun hgame => ⟨⟨id, hgame⟩, ownIds id game hgame⟩

theorem built_iff : store.Built ↔ store.OwnIds := by
  refine ⟨Built.ownIds, fun ownIds => ?_⟩
  have built := (((Built.empty.sequence store.nextId).games store.games.values).commits
    store.commits.entries).reveals store.reveals.entries
  have hstore : GameStore.mk store.nextId (gamesById store.games.values) (.ofList store.commits.entries)
      (.ofList store.reveals.entries) = store := by
    rw [ownIds.gamesById_values, SortedMap.ofList_entries, SortedMap.ofList_entries]
  exact hstore ▸ built

end GameStore

end Roshambo
