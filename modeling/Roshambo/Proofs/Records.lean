import Roshambo.Game.Store
import Roshambo.Proofs.SortedMap

namespace Roshambo

lemma Address.not_lt_nil (a : Address) : compare a ⟨[]⟩ ≠ .lt := by
  rcases a with ⟨_ | ⟨b, bs⟩⟩
  · exact fun h => nomatch h
  · exact fun h => nomatch h

namespace Seat

lemma compare_eq (a b : Seat) : compare a b = (compare a.game b.game).then (compare a.player b.player) := rfl

lemma lt_first_iff {a : Seat} {id : GameId} : compare a ⟨id, ⟨[]⟩⟩ = .lt ↔ a.game < id := by
  rw [compare_eq, Ordering.then_eq_lt]
  simp [Address.not_lt_nil, Std.compare_eq_lt]

lemma game_le_of_lt {a b : Seat} (h : compare a b = .lt) : a.game ≤ b.game := by
  rw [compare_eq, Ordering.then_eq_lt, Std.compare_eq_lt, Std.LawfulEqOrd.compare_eq_iff_eq] at h
  rcases h with h | ⟨h, _⟩
  · exact UInt64.le_of_lt h
  · exact UInt64.le_of_eq h

end Seat

namespace GameStore

variable {α ν : Type}

lemma takeWhile_eq_filter {key : α → GameId} {id : GameId} {es : List α}
    (hs : es.Pairwise fun a b => key a ≤ key b) (hid : ∀ e ∈ es, id ≤ key e) :
    (es.takeWhile fun e => key e = id) = es.filter fun e => key e = id := by
  induction es with
  | nil => rfl
  | cons e rest ih =>
    obtain ⟨he, hrest⟩ := List.pairwise_cons.mp hs
    have ih := ih hrest fun e he => hid e (List.mem_cons_of_mem _ he)
    by_cases hk : key e = id
    · simp [hk, ih]
    · have hlt : id < key e := UInt64.lt_of_le_of_ne (hid e List.mem_cons_self) (Ne.symm hk)
      have hnone : rest.filter (fun e => key e = id) = [] := by
        rw [List.filter_eq_nil_iff]
        intro e' he' hk'
        have hle := UInt64.lt_of_lt_of_le hlt (he e' he')
        simp only [decide_eq_true_eq] at hk'
        rw [hk'] at hle
        exact UInt64.lt_irrefl _ hle
      simp [hk, hnone]

lemma takeWhile_dropWhile_eq_filter {key : α → GameId} {id : GameId} {es : List α}
    (hs : es.Pairwise fun a b => key a ≤ key b) :
    ((es.dropWhile fun e => key e < id).takeWhile fun e => key e = id) = es.filter fun e => key e = id := by
  induction es with
  | nil => rfl
  | cons e rest ih =>
    obtain ⟨he, hrest⟩ := List.pairwise_cons.mp hs
    by_cases hk : key e < id
    · have hne : key e ≠ id := UInt64.ne_of_lt hk
      simp [hk, hne, ih hrest]
    · have hle : id ≤ key e := UInt64.not_lt.mp hk
      simp only [List.dropWhile_cons, hk, decide_false, Bool.false_eq_true, if_false]
      apply takeWhile_eq_filter hs
      intro e' he'
      rcases List.mem_cons.mp he' with rfl | he'
      · exact hle
      · exact UInt64.le_trans hle (he e' he')

lemma ofGame_eq_filter (records : SortedMap Seat ν) (id : GameId) :
    ofGame records id = (records.entries.filter fun e => e.1.game = id).map fun e => (e.1.player, e.2) := by
  have hs : records.entries.Pairwise fun a b => a.1.game ≤ b.1.game :=
    records.sorted.imp Seat.game_le_of_lt
  simp only [ofGame, SortedMap.scan, Seat.lt_first_iff]
  rw [takeWhile_dropWhile_eq_filter hs]

lemma mem_ofGame {records : SortedMap Seat ν} {id : GameId} {player : Address} {v : ν} :
    (player, v) ∈ ofGame records id ↔ records.get? ⟨id, player⟩ = some v := by
  rw [ofGame_eq_filter, SortedMap.get?_eq_some_iff]
  simp only [List.mem_map, List.mem_filter, decide_eq_true_eq, Prod.mk.injEq]
  constructor
  · rintro ⟨⟨⟨_, _⟩, _⟩, ⟨he, rfl⟩, rfl, rfl⟩
    exact he
  · intro h
    exact ⟨_, ⟨h, rfl⟩, rfl, rfl⟩

lemma ofGame_sorted (records : SortedMap Seat ν) (id : GameId) :
    (ofGame records id).Pairwise fun a b => compare a.1 b.1 = .lt := by
  rw [ofGame_eq_filter, List.pairwise_map]
  refine (records.sorted.filter _).imp_of_mem ?_
  intro a b ha hb h
  have hgame : a.1.game = b.1.game := by
    simp only [List.mem_filter, decide_eq_true_eq] at ha hb
    rw [ha.2, hb.2]
  rw [Seat.compare_eq, hgame, Std.ReflOrd.compare_self] at h
  exact h

lemma ofGame_players_nodup (records : SortedMap Seat ν) (id : GameId) :
    ((ofGame records id).map (·.1)).Nodup :=
  List.pairwise_map.mpr ((ofGame_sorted records id).imp SortedMap.ne_of_lt)

variable (store : GameStore)

lemma keys_sorted : store.games.keys.Pairwise (· < ·) :=
  List.pairwise_map.mpr (store.games.sorted.imp Std.compare_eq_lt.mp)

lemma keys_eq_ids {store : GameStore} (ownId : ∀ id game, store.game? id = some game → game.id = id) :
    store.games.keys = store.games.values.map (·.id) := by
  rw [SortedMap.keys, SortedMap.values, List.map_map]
  apply List.map_congr_left
  rintro ⟨id, game⟩ he
  exact (ownId id game (SortedMap.get?_eq_some_iff.mpr he)).symm

lemma game?_of_mem_values {store : GameStore} (ownId : ∀ id game, store.game? id = some game → game.id = id)
    {game : Game} (h : game ∈ store.games.values) : store.game? game.id = some game := by
  obtain ⟨id, hid⟩ := SortedMap.mem_values.mp h
  rw [ownId id game hid]
  exact hid

lemma game?_setGame (game : Game) (id : GameId) :
    (store.setGame game).game? id = if id = game.id then some game else store.game? id :=
  store.games.get?_insert game.id id game

@[simp] lemma commits_setCommit (id : GameId) (player : Address) (commit : MoveCommit) :
    (store.setCommit id player commit).commits = store.commits.insert ⟨id, player⟩ commit := rfl

@[simp] lemma game?_setReveal (id : GameId) (player : Address) (reveal : MoveReveal) :
    (store.setReveal id player reveal).game? = store.game? := rfl

@[simp] lemma reveals_setReveal (id : GameId) (player : Address) (reveal : MoveReveal) :
    (store.setReveal id player reveal).reveals = store.reveals.insert ⟨id, player⟩ reveal := rfl

lemma commitCount_eq_countP (id : GameId) :
    store.commitCount id = store.commits.entries.countP fun e => e.1.game = id := by
  rw [commitCount, commitsOf, ofGame_eq_filter, List.length_map, List.countP_eq_length_filter]

lemma commitCount_eq_zero {store : GameStore} {id : GameId} (h : ∀ player, store.commits.get? ⟨id, player⟩ = none) :
    store.commitCount id = 0 := by
  rw [commitCount_eq_countP, List.countP_eq_zero]
  rintro ⟨⟨game, player⟩, commit⟩ he hid
  simp only [decide_eq_true_eq] at hid
  rw [← SortedMap.get?_eq_some_iff, hid, h] at he
  cases he

lemma commitCount_setCommit {store : GameStore} {id : GameId} {player : Address}
    (h : store.commits.get? ⟨id, player⟩ = none) (commit : MoveCommit) (other : GameId) :
    (store.setCommit id player commit).commitCount other =
      store.commitCount other + if id = other then 1 else 0 := by
  rw [commitCount_eq_countP, commitCount_eq_countP, commits_setCommit,
    (SortedMap.perm_insert_new commit h).countP_eq, List.countP_cons]
  simp only [decide_eq_true_eq]

def without (store : GameStore) (ids : List GameId) : GameStore :=
  { store with
    games := store.games.filter fun id => id ∉ ids
    commits := store.commits.filter fun seat => seat.game ∉ ids
    reveals := store.reveals.filter fun seat => seat.game ∉ ids }

@[simp] lemma without_nil : store.without [] = store := by
  simp only [without, List.not_mem_nil, not_false_eq_true, decide_true]
  rw [SortedMap.filter_eq_self (by simp), SortedMap.filter_eq_self (by simp), SortedMap.filter_eq_self (by simp)]

lemma without_without (ids ids' : List GameId) :
    (store.without ids).without ids' = store.without (ids ++ ids') := by
  simp only [without, SortedMap.filter_filter, List.mem_append, not_or, Bool.decide_and]

lemma without_congr {store : GameStore} {ids ids' : List GameId} (h : ∀ id, id ∈ ids ↔ id ∈ ids') :
    store.without ids = store.without ids' := by
  simp only [without, h]

lemma game?_without (ids : List GameId) (id : GameId) :
    (store.without ids).game? id = if id ∈ ids then none else store.game? id := by
  simp only [game?, without, SortedMap.get?_filter, decide_eq_true_eq]
  by_cases h : id ∈ ids <;> simp [h]

def start (store : GameStore) (creator : Address) (fee : Amount) (closing : Instant) (commit : MoveCommit) :
    GameStore :=
  (({ store with nextId := store.nextId + 1 }).setGame ⟨store.nextId, fee, closing, none⟩).setCommit
    store.nextId creator commit

lemma lt_next {id : GameId} (h : id.toNat + 1 < UInt64.size) : id < id + 1 := by
  rw [UInt64.lt_iff_toNat_lt, UInt64.toNat_add, UInt64.toNat_one, Nat.mod_eq_of_lt h]
  exact Nat.lt_succ_self _

section Start

variable (creator : Address) (fee : Amount) (closing : Instant) (commit : MoveCommit)

@[simp] lemma commits_start : (store.start creator fee closing commit).commits =
    store.commits.insert ⟨store.nextId, creator⟩ commit := rfl

lemma game?_start (id : GameId) : (store.start creator fee closing commit).game? id =
    if id = store.nextId then some ⟨store.nextId, fee, closing, none⟩ else store.game? id :=
  store.games.get?_insert store.nextId id _

lemma commitCount_start (h : store.commits.get? ⟨store.nextId, creator⟩ = none) (id : GameId) :
    (store.start creator fee closing commit).commitCount id =
      store.commitCount id + if store.nextId = id then 1 else 0 :=
  commitCount_setCommit h commit id

end Start

lemma ofGame_filter (records : SortedMap Seat ν) (ids : List GameId) (id : GameId) :
    ofGame (records.filter fun seat => seat.game ∉ ids) id = if id ∈ ids then [] else ofGame records id := by
  rw [ofGame_eq_filter, ofGame_eq_filter, SortedMap.entries_filter, List.filter_filter]
  split
  · rename_i h
    rw [List.map_eq_nil_iff, List.filter_eq_nil_iff]
    rintro e _ he
    simp only [Bool.and_eq_true, decide_eq_true_eq] at he
    exact he.2 (he.1 ▸ h)
  · rename_i h
    congr 1
    apply List.filter_congr
    intro e _
    by_cases he : e.1.game = id <;> simp [he, h]

lemma commitsOf_without (ids : List GameId) (id : GameId) :
    (store.without ids).commitsOf id = if id ∈ ids then [] else store.commitsOf id :=
  ofGame_filter store.commits ids id

lemma commitCount_without (ids : List GameId) (id : GameId) :
    (store.without ids).commitCount id = if id ∈ ids then 0 else store.commitCount id := by
  simp only [commitCount, commitsOf_without]
  split <;> rfl

lemma revealsOf_without (ids : List GameId) (id : GameId) :
    (store.without ids).revealsOf id = if id ∈ ids then [] else store.revealsOf id :=
  ofGame_filter store.reveals ids id

lemma foldl_vacate (id : GameId) (players : List Address) :
    players.foldl (fun s player => s.vacate ⟨id, player⟩) store =
      { store with
        commits := store.commits.filter fun seat => ¬ (seat.game = id ∧ seat.player ∈ players)
        reveals := store.reveals.filter fun seat => ¬ (seat.game = id ∧ seat.player ∈ players) } := by
  induction players generalizing store with
  | nil =>
    simp only [List.foldl_nil, List.not_mem_nil, and_false, not_false_eq_true, decide_true]
    rw [SortedMap.filter_eq_self (by simp), SortedMap.filter_eq_self (by simp)]
  | cons player rest ih =>
    have hseat : ∀ seat : Seat, (decide (seat ≠ ⟨id, player⟩) && decide (¬ (seat.game = id ∧ seat.player ∈ rest))) =
        decide (¬ (seat.game = id ∧ seat.player ∈ player :: rest)) := by
      rintro ⟨game, other⟩
      by_cases hg : game = id <;> by_cases hp : other = player <;> simp [hg, hp]
    rw [List.foldl_cons, ih]
    simp only [vacate, SortedMap.erase_eq_filter, SortedMap.filter_filter, hseat]

lemma mem_playersOf {id : GameId} {player : Address} :
    player ∈ store.playersOf id ↔
      (∃ c, store.commits.get? ⟨id, player⟩ = some c) ∨ ∃ r, store.reveals.get? ⟨id, player⟩ = some r := by
  simp [playersOf, commitsOf, revealsOf, mem_ofGame]

lemma filter_vacated {records : SortedMap Seat ν} {id : GameId} {players : List Address}
    (h : ∀ player v, records.get? ⟨id, player⟩ = some v → player ∈ players) :
    (records.filter fun seat => ¬ (seat.game = id ∧ seat.player ∈ players)) =
      records.filter fun seat => seat.game ∉ [id] := by
  apply SortedMap.filter_congr
  rintro ⟨⟨game, player⟩, v⟩ he
  rw [← SortedMap.get?_eq_some_iff] at he
  by_cases hg : game = id
  · have hp : player ∈ players := h player v (hg ▸ he)
    simp [hg, hp]
  · simp [hg]

lemma removeGame_eq_without (id : GameId) : store.removeGame id = store.without [id] := by
  have hcommits := filter_vacated fun player c (hc : store.commits.get? ⟨id, player⟩ = some c) =>
    (mem_playersOf store).mpr (Or.inl ⟨c, hc⟩)
  have hreveals := filter_vacated fun player r (hr : store.reveals.get? ⟨id, player⟩ = some r) =>
    (mem_playersOf store).mpr (Or.inr ⟨r, hr⟩)
  simp only [removeGame, foldl_vacate, without, hcommits, hreveals, SortedMap.erase_eq_filter,
    List.mem_singleton]

end GameStore

end Roshambo
