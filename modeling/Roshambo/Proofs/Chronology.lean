import Roshambo.Proofs.Frames
import Roshambo.Proofs.Instants
import Roshambo.Proofs.Snapshots

namespace Roshambo

variable {κ β : Type}

namespace Keeper

variable {now closing : Instant} {window : UInt64} {what : String} {seconds : Nat}

lemma duration_of_le (h : window.toNat ≤ Params.maxSeconds) : duration window = .ok window.toNat := by
  rw [duration, Params.duration?, if_pos h]

lemma duration_of_lt (h : Params.maxSeconds < window.toNat) :
    duration window = .error (.overflow s!"window of {window.toNat} seconds") := by
  rw [duration, Params.duration?, if_neg (Nat.not_le.mpr h)]

lemma duration_eq_ok_iff :
    duration window = .ok seconds ↔ window.toNat ≤ Params.maxSeconds ∧ seconds = window.toNat := by
  rcases Nat.lt_or_ge Params.maxSeconds window.toNat with h | h
  · simp [duration_of_lt h, Nat.not_le.mpr h]
  · simp [duration_of_le h, h, eq_comm]

lemma deadline_eq_ok_iff : deadline now window what = .ok closing ↔
    window.toNat ≤ Params.maxSeconds ∧ now.add? window.toNat = some closing := by
  simp only [deadline, bind_eq_ok_iff, duration_eq_ok_iff]
  constructor
  · rintro ⟨seconds, ⟨hfits, rfl⟩, h⟩
    split at h
    · rename_i hclosing
      exact ⟨hfits, hclosing.trans (congrArg some (Except.ok.inj h))⟩
    · cases h
  · rintro ⟨hfits, hclosing⟩
    exact ⟨_, ⟨hfits, rfl⟩, by rw [hclosing]; rfl⟩

lemma lt_deadline (closes : deadline now window what = .ok closing) (hpos : window ≠ 0) : now < closing :=
  Instant.lt_of_add? (deadline_eq_ok_iff.mp closes).2 fun hzero => hpos (UInt64.toNat_inj.mp hzero)

end Keeper

lemma Params.windows_of_validate {params : Params} (h : params.validate = .ok ()) :
    params.commitWindow ≠ 0 ∧ params.revealWindow ≠ 0 := by
  simp only [validate, guard_eq_ok_iff] at h
  exact ⟨h.1, h.2.1⟩

def Call.time? : Call → Option Instant
  | startGame block _ _ _ | commitMove block _ _ _ | revealMove block _ _ _ _ | endRound block => some block.time
  | updateParams _ _ => none

def Turn.times (turns : List (Turn β)) : List Instant := turns.filterMap (·.call.time?)

lemma Turn.times_concat (turns : List (Turn β)) (turn : Turn β) :
    Turn.times (turns ++ [turn]) = Turn.times turns ++ turn.call.time?.toList := by
  rw [times, List.filterMap_append]
  cases h : turn.call.time? <;> simp [times, h]

namespace GameStore

variable {before after store : GameStore} {id : GameId} {player : Address} {game : Game} {now closing : Instant}
  {times : List Instant}

structure Timely (store : GameStore) (id : GameId) (game : Game) : Prop where
  commits : ∀ player commit, store.commit? id player = some commit → commit.createdAt ≤ game.commitDeadline
  early : ∃ player commit, store.commit? id player = some commit ∧ commit.createdAt < game.commitDeadline
  closes_iff : game.revealDeadline ≠ none ↔ ∃ player reveal, store.reveals.get? ⟨id, player⟩ = some reveal
  opened : ∀ player reveal, store.reveals.get? ⟨id, player⟩ = some reveal →
    ∀ other commit, store.commit? id other = some commit → commit.createdAt ≤ reveal.createdAt
  reveals : ∀ closing, game.revealDeadline = some closing →
    ∀ player reveal, store.reveals.get? ⟨id, player⟩ = some reveal → reveal.createdAt ≤ closing
  earliest : ∀ closing, game.revealDeadline = some closing →
    ∃ player first, store.reveals.get? ⟨id, player⟩ = some first ∧ first.createdAt < closing ∧
      ∀ other reveal, store.reveals.get? ⟨id, other⟩ = some reveal → first.createdAt ≤ reveal.createdAt

structure Dated (store : GameStore) (times : List Instant) : Prop where
  commit : ∀ seat commit, store.commits.get? seat = some commit → commit.createdAt ∈ times
  reveal : ∀ seat reveal, store.reveals.get? seat = some reveal → reveal.createdAt ∈ times

lemma commit?_setCommit (commit : MoveCommit) (other : Address) :
    (store.setCommit id player commit).commit? id other =
      if other = player then some commit else store.commit? id other := by
  simp only [commit?, commits_setCommit, SortedMap.get?_insert, Seat.mk.injEq, true_and]

lemma reveal_setReveal (reveal : MoveReveal) (other : Address) :
    (store.setReveal id player reveal).reveals.get? ⟨id, other⟩ =
      if other = player then some reveal else store.reveals.get? ⟨id, other⟩ := by
  simp only [reveals_setReveal, SortedMap.get?_insert, Seat.mk.injEq, true_and]

lemma Untouched.timely (untouched : before.Untouched after id) (timely : before.Timely id game) :
    after.Timely id game := by
  have hcommit : ∀ player, after.commit? id player = before.commit? id player := untouched.commit
  have hreveal := untouched.reveal
  refine
    { commits := ?commits, early := ?early, closes_iff := ?closes, opened := ?opened, reveals := ?reveals,
      earliest := ?earliest }
  case commits => simpa only [hcommit] using timely.commits
  case early => simpa only [hcommit] using timely.early
  case closes => simpa only [hreveal] using timely.closes_iff
  case opened => simpa only [hcommit, hreveal] using timely.opened
  case reveals => simpa only [hreveal] using timely.reveals
  case earliest => simpa only [hreveal] using timely.earliest

lemma timely_start [AddressCodec κ] {codec : κ} (h : store.WellFormed codec) (creator : Address) (fee : Amount)
    (commitment : Commitment) (hlt : now < closing) :
    (store.start creator fee closing ⟨commitment, now⟩).Timely store.nextId ⟨store.nextId, fee, closing, none⟩ := by
  have hcommit : ∀ player, (store.start creator fee closing ⟨commitment, now⟩).commit? store.nextId player =
      if player = creator then some ⟨commitment, now⟩ else none := by
    intro player
    rw [start, commit?_setCommit]
    split
    · rfl
    · exact h.no_commit_at_next player
  have hreveal : ∀ player reveal,
      (store.start creator fee closing ⟨commitment, now⟩).reveals.get? ⟨store.nextId, player⟩ ≠ some reveal := by
    intro player reveal hreveal
    have hold : store.reveals.get? ⟨store.nextId, player⟩ = some reveal := hreveal
    obtain ⟨game, hgame⟩ := h.revealOfGame hold
    exact h.ne_next hgame rfl
  refine
    { commits := ?commits, early := ⟨creator, _, (hcommit creator).trans (if_pos rfl), hlt⟩, closes_iff := ?closes,
      opened := fun player reveal hstored => (hreveal player reveal hstored).elim,
      reveals := fun _ hset => (Option.some_ne_none _ hset.symm).elim,
      earliest := fun _ hset => (Option.some_ne_none _ hset.symm).elim }
  case commits =>
    intro player commit hstored
    rw [hcommit] at hstored
    split at hstored
    · obtain rfl := Option.some.inj hstored
      exact Instant.le_of_lt hlt
    · cases hstored
  case closes =>
    refine iff_of_false (fun hset => hset rfl) ?_
    rintro ⟨player, reveal, hstored⟩
    exact hreveal player reveal hstored

namespace Timely

lemma join (timely : store.Timely id game) (commitment : Commitment) (unset : game.revealDeadline = none)
    (fresh : store.commit? id player = none) (hopen : now ≤ game.commitDeadline) :
    (store.setCommit id player ⟨commitment, now⟩).Timely id game := by
  have hreveal : ∀ player reveal, store.reveals.get? ⟨id, player⟩ ≠ some reveal := fun player reveal hstored =>
    timely.closes_iff.mpr ⟨player, reveal, hstored⟩ unset
  refine
    { commits := ?commits, early := ?early, closes_iff := timely.closes_iff,
      opened := fun player reveal hstored => (hreveal player reveal hstored).elim, reveals := timely.reveals,
      earliest := timely.earliest }
  case commits =>
    intro other commit hstored
    rw [commit?_setCommit] at hstored
    split at hstored
    · obtain rfl := Option.some.inj hstored
      exact hopen
    · exact timely.commits other commit hstored
  case early =>
    obtain ⟨creator, commit, hstored, hlt⟩ := timely.early
    refine ⟨creator, commit, ?_, hlt⟩
    rw [commit?_setCommit, if_neg]
    · exact hstored
    · rintro rfl
      cases fresh.symm.trans hstored

lemma firstReveal (timely : store.Timely id game) (move : Move) (salt : String) (unset : game.revealDeadline = none)
    (past : ∀ other commit, store.commit? id other = some commit → commit.createdAt ≤ now) (hlt : now < closing) :
    ((store.setGame { game with revealDeadline := some closing }).setReveal id player ⟨move, salt, now⟩).Timely id
      { game with revealDeadline := some closing } := by
  have hreveal : ∀ other reveal, ((store.setGame { game with revealDeadline := some closing }).setReveal id player
      ⟨move, salt, now⟩).reveals.get? ⟨id, other⟩ = some reveal ↔ other = player ∧ reveal = ⟨move, salt, now⟩ := by
    intro other reveal
    rw [reveal_setReveal]
    split
    · rename_i hother
      rw [Option.some_inj, eq_comm, and_iff_right hother]
    · rename_i hother
      have hnone : store.reveals.get? ⟨id, other⟩ ≠ some reveal := fun hstored =>
        timely.closes_iff.mpr ⟨other, reveal, hstored⟩ unset
      exact iff_of_false hnone fun h => hother h.1
  refine
    { commits := timely.commits, early := timely.early, closes_iff := ?closes, opened := ?opened, reveals := ?reveals,
      earliest := ?earliest }
  case closes => exact iff_of_true (Option.some_ne_none closing) ⟨player, _, (hreveal _ _).mpr ⟨rfl, rfl⟩⟩
  case opened =>
    intro other reveal hstored
    obtain ⟨rfl, rfl⟩ := (hreveal _ _).mp hstored
    exact past
  case reveals =>
    intro closing' hset other reveal hstored
    obtain rfl := Option.some.inj hset
    obtain ⟨rfl, rfl⟩ := (hreveal _ _).mp hstored
    exact Instant.le_of_lt hlt
  case earliest =>
    intro closing' hset
    obtain rfl := Option.some.inj hset
    refine ⟨player, _, (hreveal _ _).mpr ⟨rfl, rfl⟩, hlt, fun other reveal hstored => ?_⟩
    obtain ⟨rfl, rfl⟩ := (hreveal _ _).mp hstored
    exact Instant.le_refl now

lemma reveal (timely : store.Timely id game) (move : Move) (salt : String) (set : game.revealDeadline = some closing)
    (fresh : store.reveals.get? ⟨id, player⟩ = none) (hopen : now ≤ closing)
    (past : ∀ other commit, store.commit? id other = some commit → commit.createdAt ≤ now)
    (revealed : ∀ other reveal, store.reveals.get? ⟨id, other⟩ = some reveal → reveal.createdAt ≤ now) :
    (store.setReveal id player ⟨move, salt, now⟩).Timely id game := by
  have hreveal : ∀ other reveal,
      (store.setReveal id player ⟨move, salt, now⟩).reveals.get? ⟨id, other⟩ = some reveal →
        reveal = ⟨move, salt, now⟩ ∨ store.reveals.get? ⟨id, other⟩ = some reveal := by
    intro other reveal hstored
    rw [reveal_setReveal] at hstored
    split at hstored
    · exact Or.inl (Option.some.inj hstored).symm
    · exact Or.inr hstored
  have hnew : (store.setReveal id player ⟨move, salt, now⟩).reveals.get? ⟨id, player⟩ = some ⟨move, salt, now⟩ := by
    rw [reveal_setReveal, if_pos rfl]
  refine
    { commits := timely.commits, early := timely.early, closes_iff := ?closes, opened := ?opened, reveals := ?reveals,
      earliest := ?earliest }
  case closes => exact iff_of_true (set ▸ Option.some_ne_none closing) ⟨player, _, hnew⟩
  case opened =>
    intro other reveal hstored
    rcases hreveal other reveal hstored with rfl | hold
    · exact past
    · exact timely.opened other reveal hold
  case reveals =>
    intro closing' hset other reveal hstored
    rcases hreveal other reveal hstored with rfl | hold
    · obtain rfl := Option.some.inj (set.symm.trans hset)
      exact hopen
    · exact timely.reveals closing' hset other reveal hold
  case earliest =>
    intro closing' hset
    obtain ⟨opener, first, hfirst, hlt, hleast⟩ := timely.earliest closing' hset
    refine ⟨opener, first, ?_, hlt, fun other reveal hstored => ?_⟩
    · rw [reveal_setReveal, if_neg]
      · exact hfirst
      · rintro rfl
        cases fresh.symm.trans hfirst
    · rcases hreveal other reveal hstored with rfl | hold
      · exact revealed opener first hfirst
      · exact hleast other reveal hold

end Timely

namespace Dated

lemma empty : GameStore.empty.Dated times where
  commit _ _ hstored := by cases hstored
  reveal _ _ hstored := by cases hstored

lemma later (dated : store.Dated times) (more : List Instant) : store.Dated (times ++ more) where
  commit seat commit hstored := List.mem_append_left more (dated.commit seat commit hstored)
  reveal seat reveal hstored := List.mem_append_left more (dated.reveal seat reveal hstored)

lemma setCommit (dated : store.Dated times) {commit : MoveCommit} (now : commit.createdAt ∈ times) :
    (store.setCommit id player commit).Dated times where
  commit seat stored hstored := by
    rw [commits_setCommit, SortedMap.get?_insert] at hstored
    split at hstored
    · obtain rfl := Option.some.inj hstored
      exact now
    · exact dated.commit seat stored hstored
  reveal := dated.reveal

lemma setReveal (dated : store.Dated times) {reveal : MoveReveal} (now : reveal.createdAt ∈ times) :
    (store.setReveal id player reveal).Dated times where
  commit := dated.commit
  reveal seat stored hstored := by
    rw [reveals_setReveal, SortedMap.get?_insert] at hstored
    split at hstored
    · obtain rfl := Option.some.inj hstored
      exact now
    · exact dated.reveal seat stored hstored

lemma without (dated : store.Dated times) (ids : List GameId) : (store.without ids).Dated times where
  commit seat commit hstored := by
    rw [GameStore.without, SortedMap.get?_filter] at hstored
    split at hstored
    · exact dated.commit seat commit hstored
    · cases hstored
  reveal seat reveal hstored := by
    rw [GameStore.without, SortedMap.get?_filter] at hstored
    split at hstored
    · exact dated.reveal seat reveal hstored
    · cases hstored

end Dated

end GameStore

variable [AddressCodec κ] [Bank β] {keeper : Keeper κ} {turn : Turn β} {store : GameStore} {id : GameId} {game : Game}
  {times : List Instant}

namespace Turn.Effect

lemma dated (effect : turn.Effect keeper store) (dated : keeper.store.Dated times) :
    store.Dated (times ++ turn.call.time?.toList) := by
  have dated := dated.later turn.call.time?.toList
  have htime : ∀ {now}, turn.call.time? = some now → now ∈ times ++ turn.call.time?.toList := fun hnow =>
    List.mem_append_right times (Option.mem_toList.mpr hnow)
  cases effect with
  | quiet _ _ => exact dated
  | @start block player commitment fee creator closing call _ _ =>
    have hgame : (({ keeper.store with nextId := keeper.store.nextId + 1 } : GameStore).setGame
        ⟨keeper.store.nextId, fee, closing, none⟩).Dated (times ++ turn.call.time?.toList) :=
      ⟨dated.commit, dated.reveal⟩
    exact hgame.setCommit (htime (call ▸ rfl))
  | join call _ => exact dated.setCommit (htime (call ▸ rfl))
  | @firstReveal _ _ _ _ _ _ _ game closing call _ _ _ =>
    have hgame : (keeper.store.setGame { game with revealDeadline := some closing }).Dated
        (times ++ turn.call.time?.toList) :=
      ⟨dated.commit, dated.reveal⟩
    exact hgame.setReveal (htime (call ▸ rfl))
  | reveal call _ _ => exact dated.setReveal (htime (call ▸ rfl))
  | round _ => exact dated.without _

lemma timely (effect : turn.Effect keeper store) (h : keeper.store.WellFormed keeper.codec)
    (params : keeper.params.validate = .ok ()) (dated : keeper.store.Dated times)
    (past : ∀ now, turn.call.time? = some now → ∀ time ∈ times, time ≤ now)
    (timely : ∀ {id game}, keeper.store.game? id = some game → keeper.store.Timely id game)
    (stored : store.game? id = some game) : store.Timely id game := by
  obtain ⟨hcommitWindow, hrevealWindow⟩ := Params.windows_of_validate params
  have untouched : keeper.store.Untouched store id → store.Timely id game := fun untouched =>
    untouched.timely (timely (untouched.game.symm.trans stored))
  have committed : ∀ {now}, turn.call.time? = some now → ∀ player commit,
      keeper.store.commit? id player = some commit → commit.createdAt ≤ now :=
    fun hnow player commit hcommit => past _ hnow _ (dated.commit ⟨id, player⟩ commit hcommit)
  have revealed : ∀ {now}, turn.call.time? = some now → ∀ player reveal,
      keeper.store.reveals.get? ⟨id, player⟩ = some reveal → reveal.createdAt ≤ now :=
    fun hnow player reveal hreveal => past _ hnow _ (dated.reveal ⟨id, player⟩ reveal hreveal)
  cases effect with
  | quiet _ _ => exact timely stored
  | start _ admitted _ =>
    obtain ⟨_, _, closes, _⟩ := Keeper.admitStart_eq_ok_iff.mp admitted
    by_cases hid : id = keeper.store.nextId
    · subst hid
      rw [GameStore.game?_start, if_pos rfl] at stored
      obtain rfl := Option.some.inj stored
      exact GameStore.timely_start h _ _ _ (Keeper.lt_deadline closes hcommitWindow)
    · exact untouched ((GameStore.confined_start _ _ _ _).untouched hid)
  | @join block joined _ _ _ _ _ admitted =>
    obtain ⟨_, shown, hshown, hcount, hopen, hfresh, _⟩ := Keeper.admitCommit_eq_ok_iff.mp admitted
    by_cases hid : id = joined
    · subst hid
      obtain rfl := Option.some.inj (hshown.symm.trans stored)
      have unset : shown.revealDeadline = none := by
        by_contra hset
        rw [h.deadlineOfFull hshown hset] at hcount
        exact Nat.lt_irrefl _ hcount
      have hle : block.time ≤ shown.commitDeadline := fun hlt => hopen (decide_eq_true hlt)
      exact (timely hshown).join _ unset (GameStore.get?_eq_none_of_not_hasCommit hfresh) hle
    · exact untouched ((GameStore.confined_setCommit _).untouched hid)
  | @firstReveal _ opened _ _ _ player _ shown closing call admitted unset closes =>
    obtain ⟨_, _, hshown, _⟩ := Keeper.admitReveal_eq_ok_iff.mp admitted
    by_cases hid : id = opened
    · subst hid
      rw [GameStore.game?_setReveal, h.game?_setDeadline closing hshown] at stored
      obtain rfl := Option.some.inj stored
      exact (timely hshown).firstReveal _ _ unset (committed (call ▸ rfl)) (Keeper.lt_deadline closes hrevealWindow)
    · exact untouched ((GameStore.confined_firstReveal (h.ownId hshown) closing _).untouched hid)
  | @reveal block opened _ _ _ _ _ shown closing call admitted set =>
    obtain ⟨_, _, hshown, hopen, _, _, _, hfresh, _⟩ := Keeper.admitReveal_eq_ok_iff.mp admitted
    by_cases hid : id = opened
    · subst hid
      obtain rfl := Option.some.inj (hshown.symm.trans stored)
      rw [Game.revealClosed, set] at hopen
      have hle : block.time ≤ closing := fun hlt => hopen (decide_eq_true hlt)
      exact (timely hshown).reveal _ _ set (GameStore.get?_eq_none_of_not_hasReveal hfresh) hle (committed (call ▸ rfl))
        (revealed (call ▸ rfl))
    · exact untouched ((GameStore.confined_setReveal _).untouched hid)
  | round _ => exact untouched (GameStore.untouched_without (stored ▸ Option.some_ne_none game))

end Turn.Effect

namespace Keeper

section Fresh

variable {codec : κ} {authority : String} {config : GameConfig}
  (created : Keeper.new codec authority config = .ok keeper)

include created

lemma dated_after (turns : List (Turn β)) : (keeper.after turns).store.Dated (Turn.times turns) := by
  induction turns using @history_induction _ β _ _ _ _ (new_wellFormed created) with
  | nil =>
    change keeper.store.Dated []
    rw [new_store created]
    exact .empty
  | concat turns turn _ effect ih =>
    rw [Turn.times_concat]
    exact effect.dated ih

lemma timely_after {turns : List (Turn β)} (ordered : (Turn.times turns).Pairwise (· ≤ ·)) :
    ∀ {id game}, (keeper.after turns).store.game? id = some game → (keeper.after turns).store.Timely id game := by
  induction turns using @history_induction _ β _ _ _ _ (new_wellFormed created) with
  | nil =>
    intro id game stored
    change keeper.store.game? id = _ at stored
    rw [new_store created] at stored
    cases stored
  | concat turns turn hmet effect ih =>
    -- every time on record is that of an earlier turn, so it is past at the new one
    intro id game stored
    rw [Turn.times_concat] at ordered
    obtain ⟨hturns, _, hpast⟩ := List.pairwise_append.mp ordered
    have params := ((Reachable.new created).after turns).params_valid
    have past : ∀ now, turn.call.time? = some now → ∀ time ∈ Turn.times turns, time ≤ now :=
      fun now hnow time htime => hpast time htime now (Option.mem_toList.mpr hnow)
    exact effect.timely hmet params (dated_after created turns) past (ih hturns) stored

end Fresh

/-- As long as the times of the calls never go back, the times on record under every stored game are in order, at every
point of a history: commits up to the commit deadline and one before it, the reveal deadline set with the first reveal
and after it, and reveals between the two commits and that deadline. -/
theorem times_in_order {codec : κ} {authority : String} {config : GameConfig}
    (created : Keeper.new codec authority config = .ok keeper) {turns : List (Turn β)}
    (ordered : (Turn.times turns).IsChain (· ≤ ·)) {before : List (Turn β)} (point : before <+: turns)
    (stored : (keeper.after before).store.game? id = some game) :
    (keeper.after before).store.Timely id game ∧
      (game.revealDeadline ≠ none → ((keeper.after before).store.commitsOf id).length = 2) := by
  have hsplit : (Turn.times before).Sublist (Turn.times turns) := point.sublist.filterMap _
  refine ⟨timely_after created (ordered.pairwise.sublist hsplit) stored, ?_⟩
  exact (after_wellFormed (new_wellFormed created) before).deadlineOfFull stored

end Keeper

namespace Sample

def second (seconds : Nat) (h : seconds < 60 * 60) : Instant := ⟨seconds, 0, by omega, Or.inl (by decide)⟩

def punctual : List (Turn Accounts) :=
  [⟨.startGame ⟨1, .epoch⟩ "rps1qvdrtkhs" (.of .rock ":") ⟨5⟩, ledger.bank⟩,
    ⟨.commitMove ⟨2, second 60 (by decide)⟩ 0 "rps1qynh06fd" (.of .paper "s"),
      { ledger.bank with balances := (∅ : SortedMap Address Amount).insert ⟨[1]⟩ ⟨5⟩ }⟩,
    ⟨.updateParams "rps1qynh06fd" ⟨60, 5⟩, ledger.bank⟩,
    ⟨.revealMove ⟨3, second 1000 (by decide)⟩ 0 "rps1qvdrtkhs" "rock" ":", ledger.bank⟩,
    ⟨.revealMove ⟨4, second 1005 (by decide)⟩ 0 "rps1qynh06fd" "paper" "s", ledger.bank⟩]

end Sample

theorem Keeper.times_in_order_punctual :
    (Turn.times Sample.punctual).IsChain (· ≤ ·) ∧
      ((Sample.fresh.after Sample.punctual).store.revealsOf 0).length = 2 ∧
      (Sample.fresh.after Sample.punctual).store.Timely 0
        ⟨0, ⟨5⟩, Sample.second 60 (by decide), some (Sample.second 1005 (by decide))⟩ := by
  have hordered : (Turn.times Sample.punctual).IsChain (· ≤ ·) := by decide +kernel
  have hstored : (Sample.fresh.after Sample.punctual).store.game? 0 =
      some ⟨0, ⟨5⟩, Sample.second 60 (by decide), some (Sample.second 1005 (by decide))⟩ := by
    decide +kernel
  exact ⟨hordered, by decide +kernel,
    (times_in_order Sample.new_fresh hordered (List.prefix_refl _) hstored).1⟩

end Roshambo
