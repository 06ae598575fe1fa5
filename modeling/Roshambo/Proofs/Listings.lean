import Roshambo.Proofs.LastWords
import Roshambo.Proofs.Records

namespace Roshambo.GameStore

variable {ν : Type}

inductive Edit
  | setSequence (next : GameId)
  | setGame (game : Game)
  | setCommit (id : GameId) (player : Address) (commit : MoveCommit)
  | setReveal (id : GameId) (player : Address) (reveal : MoveReveal)
  | removeGame (id : GameId)
  deriving DecidableEq

namespace Edit

def apply (store : GameStore) : Edit → GameStore
  | setSequence next => { store with nextId := next }
  | setGame game => store.setGame game
  | setCommit id player commit => store.setCommit id player commit
  | setReveal id player reveal => store.setReveal id player reveal
  | removeGame id => store.removeGame id

def run (edits : List Edit) : GameStore := edits.foldl apply .empty

def game? (id : GameId) : Edit → Option (Option Game)
  | setGame game => if id = game.id then some (some game) else none
  | removeGame gone => if id = gone then some none else none
  | setSequence _ | setCommit _ _ _ | setReveal _ _ _ => none

def commit? (seat : Seat) : Edit → Option (Option MoveCommit)
  | setCommit id player commit => if seat = ⟨id, player⟩ then some (some commit) else none
  | removeGame gone => if seat.game = gone then some none else none
  | setSequence _ | setGame _ | setReveal _ _ _ => none

def reveal? (seat : Seat) : Edit → Option (Option MoveReveal)
  | setReveal id player reveal => if seat = ⟨id, player⟩ then some (some reveal) else none
  | removeGame gone => if seat.game = gone then some none else none
  | setSequence _ | setGame _ | setCommit _ _ _ => none

def lastWord (said : Edit → Option (Option ν)) (edits : List Edit) : Option ν := (lastWord? said edits).join

variable (store : GameStore) (edit : Edit)

lemma game?_apply (id : GameId) : (edit.apply store).game? id = (edit.game? id).getD (store.game? id) := by
  cases edit with
  | setSequence | setCommit | setReveal => rfl
  | setGame game =>
    rw [apply, game?_setGame, game?]
    split <;> rfl
  | removeGame gone =>
    simp only [apply, removeGame_eq_without, game?_without, List.mem_singleton, game?]
    split <;> rfl

lemma commits_apply (seat : Seat) :
    (edit.apply store).commits.get? seat = (edit.commit? seat).getD (store.commits.get? seat) := by
  cases edit with
  | setSequence | setGame | setReveal => rfl
  | setCommit id player commit =>
    rw [apply, commits_setCommit, SortedMap.get?_insert, commit?]
    split <;> rfl
  | removeGame gone =>
    simp only [apply, removeGame_eq_without, without, SortedMap.get?_filter, List.mem_singleton, commit?]
    by_cases h : seat.game = gone <;> simp [h]

lemma reveals_apply (seat : Seat) :
    (edit.apply store).reveals.get? seat = (edit.reveal? seat).getD (store.reveals.get? seat) := by
  cases edit with
  | setSequence | setGame | setCommit => rfl
  | setReveal id player reveal =>
    rw [apply, reveals_setReveal, SortedMap.get?_insert, reveal?]
    split <;> rfl
  | removeGame gone =>
    simp only [apply, removeGame_eq_without, without, SortedMap.get?_filter, List.mem_singleton, reveal?]
    by_cases h : seat.game = gone <;> simp [h]

lemma run_eq_lastWord (part : GameStore → Option ν) (said : Edit → Option (Option ν)) (start : part .empty = none)
    (step : ∀ store edit, part (apply store edit) = (said edit).getD (part store)) (edits : List Edit) :
    part (run edits) = lastWord said edits := by
  rw [run, foldl_eq_lastWord? step, start, lastWord]
  cases lastWord? said edits <;> rfl

variable (edits : List Edit)

lemma game?_run (id : GameId) : (run edits).game? id = lastWord (game? id) edits :=
  run_eq_lastWord (·.game? id) _ rfl (fun store edit => game?_apply store edit id) edits

lemma commits_run (seat : Seat) : (run edits).commits.get? seat = lastWord (commit? seat) edits :=
  run_eq_lastWord (·.commits.get? seat) _ rfl (fun store edit => commits_apply store edit seat) edits

lemma reveals_run (seat : Seat) : (run edits).reveals.get? seat = lastWord (reveal? seat) edits :=
  run_eq_lastWord (·.reveals.get? seat) _ rfl (fun store edit => reveals_apply store edit seat) edits

end Edit

structure Lists (value? : Address → Option ν) (listed : List (Address × ν)) : Prop where
  mem_iff : ∀ player value, (player, value) ∈ listed ↔ value? player = some value
  ordered : listed.Pairwise fun a b => compare a.1 b.1 = .lt

lemma lists_ofGame (records : SortedMap Seat ν) (id : GameId) :
    Lists (fun player => records.get? ⟨id, player⟩) (ofGame records id) :=
  ⟨fun _ _ => mem_ofGame, ofGame_sorted records id⟩

structure Removes (id : GameId) (store after : GameStore) : Prop where
  games : ∀ other, after.game? other = if other = id then none else store.game? other
  commits : ∀ other, after.commitsOf other = if other = id then [] else store.commitsOf other
  reveals : ∀ other, after.revealsOf other = if other = id then [] else store.revealsOf other
  sequence : after.nextId = store.nextId

lemma removes_removeGame (store : GameStore) (id : GameId) : Removes id store (store.removeGame id) := by
  rw [removeGame_eq_without]
  constructor
  case sequence => rfl
  all_goals
    intro other
    simp only [game?_without, commitsOf_without, revealsOf_without, List.mem_singleton]

lemma removeGame_removeGame (store : GameStore) (id other : GameId) :
    (store.removeGame id).removeGame other = store.without [id, other] := by
  rw [removeGame_eq_without, removeGame_eq_without, without_without, List.singleton_append]

/-- Whatever the edits, a game and the records under it are as the last word on each of them, and both listings hold
exactly those records. Removing a game takes its records along and nothing else, in any order and as often as one
likes. -/
theorem listings_exact :
    (∀ (edits : List Edit) (id : GameId),
      (Edit.run edits).game? id = Edit.lastWord (Edit.game? id) edits ∧
      Lists (fun player => Edit.lastWord (Edit.commit? ⟨id, player⟩) edits) ((Edit.run edits).commitsOf id) ∧
      Lists (fun player => Edit.lastWord (Edit.reveal? ⟨id, player⟩) edits) ((Edit.run edits).revealsOf id)) ∧
    ∀ (store : GameStore) (id : GameId),
      Lists (store.commit? id) (store.commitsOf id) ∧
      Lists (fun player => store.reveals.get? ⟨id, player⟩) (store.revealsOf id) ∧
      store.commitCount id = (store.commitsOf id).length ∧ store.revealCount id = (store.revealsOf id).length ∧
      Removes id store (store.removeGame id) ∧
      (store.removeGame id).removeGame id = store.removeGame id ∧
      ∀ other, (store.removeGame id).removeGame other = (store.removeGame other).removeGame id := by
  constructor
  · intro edits id
    refine ⟨Edit.game?_run edits id, ?_, ?_⟩
    · simp only [← Edit.commits_run]
      exact lists_ofGame (Edit.run edits).commits id
    · simp only [← Edit.reveals_run]
      exact lists_ofGame (Edit.run edits).reveals id
  · intro store id
    refine ⟨lists_ofGame store.commits id, lists_ofGame store.reveals id, rfl, rfl, removes_removeGame store id, ?_, ?_⟩
    · rw [removeGame_removeGame, removeGame_eq_without]
      exact without_congr fun _ => by rw [List.mem_pair, List.mem_singleton, or_self]
    · intro other
      rw [removeGame_removeGame, removeGame_removeGame]
      exact without_congr fun _ => by rw [List.mem_pair, List.mem_pair, or_comm]

end Roshambo.GameStore
