import Mathlib.Data.List.Perm.Subperm
import Roshambo.Proofs.Openings

/-! A write is about one seat of one game, a round is about the games that it pays, and of a game that is still there
nothing on record is lost. -/

namespace Roshambo

namespace GameStore

variable {ν : Type} {before middle after store : GameStore} {id other : GameId} {player : Address}

structure Untouched (before after : GameStore) (id : GameId) : Prop where
  game : after.game? id = before.game? id
  commit : ∀ player, after.commits.get? ⟨id, player⟩ = before.commits.get? ⟨id, player⟩
  reveal : ∀ player, after.reveals.get? ⟨id, player⟩ = before.reveals.get? ⟨id, player⟩

structure Confined (before after : GameStore) (id : GameId) (player : Address) : Prop where
  game : ∀ other, other ≠ id → after.game? other = before.game? other
  commit : ∀ seat, seat ≠ ⟨id, player⟩ → after.commits.get? seat = before.commits.get? seat
  reveal : ∀ seat, seat ≠ ⟨id, player⟩ → after.reveals.get? seat = before.reveals.get? seat

structure Extends (before after : GameStore) : Prop where
  game : ∀ id game, before.game? id = some game → ∃ game', after.game? id = some game'
  commit : ∀ seat commit, before.commits.get? seat = some commit → after.commits.get? seat = some commit
  reveal : ∀ seat reveal, before.reveals.get? seat = some reveal → after.reveals.get? seat = some reveal

lemma Confined.untouched (confined : before.Confined after id player) (hne : other ≠ id) :
    before.Untouched after other where
  game := confined.game other hne
  commit _ := confined.commit _ fun hseat => hne (congrArg Seat.game hseat)
  reveal _ := confined.reveal _ fun hseat => hne (congrArg Seat.game hseat)

lemma Confined.trans (first : before.Confined middle id player) (second : middle.Confined after id player) :
    before.Confined after id player where
  game other hne := (second.game other hne).trans (first.game other hne)
  commit seat hne := (second.commit seat hne).trans (first.commit seat hne)
  reveal seat hne := (second.reveal seat hne).trans (first.reveal seat hne)

lemma confined_start (creator : Address) (fee : Amount) (closing : Instant) (commit : MoveCommit) :
    store.Confined (store.start creator fee closing commit) store.nextId creator where
  game other hne := by rw [game?_start, if_neg hne]
  commit seat hne := by rw [commits_start, SortedMap.get?_insert, if_neg hne]
  reveal _ _ := rfl

lemma confined_setCommit (commit : MoveCommit) : store.Confined (store.setCommit id player commit) id player where
  game _ _ := rfl
  commit seat hne := by rw [commits_setCommit, SortedMap.get?_insert, if_neg hne]
  reveal _ _ := rfl

lemma confined_setGame (game : Game) (player : Address) : store.Confined (store.setGame game) game.id player where
  game other hne := by rw [game?_setGame, if_neg hne]
  commit _ _ := rfl
  reveal _ _ := rfl

lemma confined_setReveal (reveal : MoveReveal) : store.Confined (store.setReveal id player reveal) id player where
  game _ _ := rfl
  commit _ _ := rfl
  reveal seat hne := by rw [reveals_setReveal, SortedMap.get?_insert, if_neg hne]

lemma confined_firstReveal {game : Game} (own : game.id = id) (closing : Instant) (reveal : MoveReveal) :
    store.Confined ((store.setGame { game with revealDeadline := some closing }).setReveal id player reveal) id
      player := by
  subst own
  exact (confined_setGame { game with revealDeadline := some closing } player).trans (confined_setReveal reveal)

lemma untouched_without {ids : List GameId} (stored : (store.without ids).game? id ≠ none) :
    store.Untouched (store.without ids) id := by
  have hkept : id ∉ ids := by
    intro hgone
    rw [game?_without, if_pos hgone] at stored
    exact stored rfl
  have hseat : ∀ player, decide ((⟨id, player⟩ : Seat).game ∉ ids) = true := fun _ => decide_eq_true hkept
  refine { game := ?game, commit := fun player => ?commit, reveal := fun player => ?reveal }
  case game => rw [game?_without, if_neg hkept]
  case commit => rw [without, SortedMap.get?_filter, if_pos (hseat player)]
  case reveal => rw [without, SortedMap.get?_filter, if_pos (hseat player)]

lemma ofGame_length_le {records records' : SortedMap Seat ν}
    (kept : ∀ player v, records.get? ⟨id, player⟩ = some v → records'.get? ⟨id, player⟩ = some v) :
    (ofGame records id).length ≤ (ofGame records' id).length := by
  refine (((ofGame_players_nodup records id).of_map _).subperm ?_).length_le
  rintro ⟨player, v⟩ hmem
  exact mem_ofGame.mpr (kept player v (mem_ofGame.mp hmem))

lemma ofGame_insert_first {records : SortedMap Seat ν} (h : ofGame records id = []) (v : ν) :
    ofGame (records.insert ⟨id, player⟩ v) id = [(player, v)] := by
  apply List.perm_singleton.mp
  refine (List.perm_ext_iff_of_nodup ((ofGame_players_nodup _ _).of_map _) (List.nodup_singleton _)).mpr ?_
  rintro ⟨other, v'⟩
  have hnone : ¬ records.get? ⟨id, other⟩ = some v' := by
    rw [← mem_ofGame, h]
    exact List.not_mem_nil
  rw [mem_ofGame, SortedMap.get?_insert, List.mem_singleton]
  by_cases hother : other = player
  · simp [hother, eq_comm]
  · simp [hother, hnone]

end GameStore

end Roshambo
