import Mathlib.Data.List.Nodup
import Roshambo.Proofs.Histories
import Roshambo.Proofs.Solvency

namespace Roshambo

variable {κ β : Type} {store : GameStore} {paid : List Settlement} {id : GameId}

structure GameStore.Accounted (store : GameStore) (paid : List Settlement) : Prop where
  once : (paid.map (·.game)).Nodup
  given : ∀ id ∈ paid.map (·.game), id < store.nextId
  stored_iff : ∀ id, store.game? id ≠ none ↔ id < store.nextId ∧ id ∉ paid.map (·.game)

namespace GameStore.Accounted

lemma empty : GameStore.empty.Accounted [] where
  once := List.nodup_nil
  given := by simp
  stored_iff id := ⟨fun h => (h rfl).elim, fun h => (UInt64.not_lt_zero h.1).elim⟩

lemma congr {store' : GameStore} (h : store.Accounted paid) (next : store'.nextId = store.nextId)
    (stored : ∀ id, store'.game? id ≠ none ↔ store.game? id ≠ none) : store'.Accounted paid where
  once := h.once
  given := next ▸ h.given
  stored_iff id := by rw [stored, next, h.stored_iff]

lemma start (h : store.Accounted paid) (hid : store.nextId.toNat + 1 < UInt64.size) (creator : Address) (fee : Amount)
    (closing : Instant) (commit : MoveCommit) : (store.start creator fee closing commit).Accounted paid where
  once := h.once
  given id hpaid := UInt64.lt_trans (h.given id hpaid) (GameStore.lt_next hid)
  stored_iff id := by
    have hsplit : id < store.nextId + 1 ↔ id = store.nextId ∨ id < store.nextId := by
      have hnext : (store.nextId + 1).toNat = store.nextId.toNat + 1 := by
        rw [UInt64.toNat_add, UInt64.toNat_one, Nat.mod_eq_of_lt hid]
      rw [UInt64.lt_iff_toNat_lt, hnext, UInt64.lt_iff_toNat_lt, ← UInt64.toNat_inj]
      omega
    have hnew : store.nextId ∉ paid.map (·.game) := fun hpaid => UInt64.lt_irrefl _ (h.given _ hpaid)
    change _ ↔ id < store.nextId + 1 ∧ _
    rw [GameStore.game?_start, hsplit]
    split
    · rename_i he
      simp [he, hnew]
    · rename_i hne
      simp only [hne, false_or]
      exact h.stored_iff id

lemma close {settled : List Settlement} (h : store.Accounted paid)
    (stored : ∀ s ∈ settled, store.game? s.game ≠ none) (nodup : (settled.map (·.game)).Nodup) :
    (store.without (settled.map (·.game))).Accounted (paid ++ settled) where
  once := by
    rw [List.map_append, List.nodup_append]
    refine ⟨h.once, nodup, fun id hpaid id' hsettled => ?_⟩
    rintro rfl
    obtain ⟨s, hs, rfl⟩ := List.mem_map.mp hsettled
    exact ((h.stored_iff _).mp (stored s hs)).2 hpaid
  given id hid := by
    rw [List.map_append, List.mem_append] at hid
    rcases hid with hpaid | hsettled
    · exact h.given id hpaid
    · obtain ⟨s, hs, rfl⟩ := List.mem_map.mp hsettled
      exact ((h.stored_iff _).mp (stored s hs)).1
  stored_iff id := by
    rw [GameStore.game?_without, List.map_append, List.mem_append]
    split
    · rename_i hsettled
      simp [hsettled]
    · rename_i hkept
      rw [h.stored_iff]
      simp only [hkept, or_false]
      rfl

end GameStore.Accounted

variable [AddressCodec κ] [Bank β] {keeper : Keeper κ} {turn : Turn β} {before later turns : List (Turn β)}

lemma GameStore.stored_setDeadline {game : Game} {closing : Instant} (h : store.game? game.id ≠ none) (id : GameId) :
    (store.setGame { game with revealDeadline := some closing }).game? id ≠ none ↔ store.game? id ≠ none := by
  rw [GameStore.game?_setGame]
  split
  · rename_i he
    rw [he]
    exact ⟨fun _ => h, fun _ => Option.some_ne_none _⟩
  · rfl

omit [AddressCodec κ] in
lemma Turn.paid_nodup (ownIds : keeper.store.OwnIds) : ((turn.paid keeper).map (·.game)).Nodup := by
  obtain ⟨call, bank⟩ := turn
  cases call with
  | endRound block => exact @Transaction.paid_nodup _ _ _ ⟨keeper, bank⟩ block ownIds
  | _ => exact List.nodup_nil

lemma Turn.Effect.accounted (effect : turn.Effect keeper store) (h : keeper.store.WellFormed keeper.codec)
    (accounted : keeper.store.Accounted paid) : store.Accounted (paid ++ turn.paid keeper) := by
  cases effect with
  | quiet _ hpaid => rwa [hpaid, List.append_nil]
  | start call admitted _ =>
    obtain ⟨_, _, _, _, hid⟩ := Keeper.admitStart_eq_ok_iff.mp admitted
    rw [Turn.paid_eq_nil (by simp [call]), List.append_nil]
    exact accounted.start hid _ _ _ _
  | join call _
  | reveal call _ =>
    rw [Turn.paid_eq_nil (by simp [call]), List.append_nil]
    exact accounted.congr rfl fun _ => Iff.rfl
  | firstReveal closing call admitted =>
    obtain ⟨_, _, hgame, _⟩ := Keeper.admitReveal_eq_ok_iff.mp admitted
    rw [Turn.paid_eq_nil (by simp [call]), List.append_nil]
    refine accounted.congr rfl (GameStore.stored_setDeadline ?_)
    rw [h.ownId hgame, hgame]
    exact Option.some_ne_none _
  | round call =>
    have ownIds : keeper.store.OwnIds := fun _ _ => h.ownId
    exact accounted.close (fun s hs => Turn.stored_of_mem_paid ownIds hs) (Turn.paid_nodup ownIds)

lemma Turn.Effect.nextId (effect : turn.Effect keeper store) :
    (turn.started keeper = none ∧ store.nextId = keeper.store.nextId) ∨
      (turn.started keeper = some keeper.store.nextId ∧ store.nextId.toNat = keeper.store.nextId.toNat + 1) := by
  cases effect with
  | quiet hstarted _ => exact Or.inl ⟨hstarted, rfl⟩
  | start _ admitted hstarted =>
    obtain ⟨_, _, _, _, hid⟩ := Keeper.admitStart_eq_ok_iff.mp admitted
    refine Or.inr ⟨hstarted, ?_⟩
    change (keeper.store.nextId + 1).toNat = _
    rw [UInt64.toNat_add, UInt64.toNat_one, Nat.mod_eq_of_lt hid]
  | join call _
  | firstReveal _ call _
  | reveal call _
  | round call => exact Or.inl ⟨by simp [Turn.started, call], rfl⟩

lemma Recorder.apply_turn (ownIds : keeper.store.OwnIds) (turn : Turn β) (batches : List (List Payout)) :
    (turn.call.apply ⟨keeper, Recorder.mk turn.bank batches⟩).keeper = turn.next keeper ∧
      (turn.call.apply ⟨keeper, Recorder.mk turn.bank batches⟩).bank.batches =
        batches ++ (turn.paid keeper).map (·.payouts) := by
  obtain ⟨call, bank⟩ := turn
  cases call with
  | startGame block player commitment fee =>
    rw [Turn.next, Call.apply, Call.apply, Transaction.after, Transaction.after, Transaction.startGame_eq,
      Transaction.startGame_eq]
    cases admitted : keeper.admitStart block.time player fee with
    | error e => exact ⟨rfl, (List.append_nil _).symm⟩
    | ok entry =>
      simp only
      rw [Recorder.deposit_eq]
      cases Bank.deposit bank entry.1 fee with
      | error e => exact ⟨rfl, (List.append_nil _).symm⟩
      | ok bank => exact ⟨rfl, (List.append_nil _).symm⟩
  | commitMove block id player commitment =>
    rw [Turn.next, Call.apply, Call.apply, Transaction.after, Transaction.after, Transaction.commitMove_eq,
      Transaction.commitMove_eq]
    cases admitted : keeper.admitCommit block.time id player with
    | error e => exact ⟨rfl, (List.append_nil _).symm⟩
    | ok entry =>
      simp only
      rw [Recorder.deposit_eq]
      cases Bank.deposit bank entry.1 entry.2 with
      | error e => exact ⟨rfl, (List.append_nil _).symm⟩
      | ok bank => exact ⟨rfl, (List.append_nil _).symm⟩
  | revealMove block id text label salt =>
    rw [Turn.next, Call.apply, Call.apply, Transaction.after, Transaction.after, Transaction.revealMove_eq,
      Transaction.revealMove_eq]
    cases keeper.admitReveal block.time id text label salt with
    | error e => exact ⟨rfl, (List.append_nil _).symm⟩
    | ok entry =>
      obtain ⟨player, move, game⟩ := entry
      simp only
      cases game.revealDeadline with
      | some closing => exact ⟨rfl, (List.append_nil _).symm⟩
      | none =>
        cases Keeper.deadline block.time keeper.params.revealWindow "reveal deadline" with
        | error e => exact ⟨rfl, (List.append_nil _).symm⟩
        | ok closing => exact ⟨rfl, (List.append_nil _).symm⟩
  | updateParams authority params =>
    rw [Turn.next, Call.apply, Call.apply, Transaction.after, Transaction.after, Transaction.updateParams_eq,
      Transaction.updateParams_eq]
    cases keeper.updateParams authority params with
    | error e => exact ⟨rfl, (List.append_nil _).symm⟩
    | ok keeper' => exact ⟨rfl, (List.append_nil _).symm⟩
  | endRound block =>
    obtain ⟨recorder, hpaid, hafter⟩ :=
      @Transaction.endRound_after _ _ _ ⟨keeper, Recorder.mk bank batches⟩ ownIds block
    obtain ⟨_, _, hafter'⟩ := @Transaction.endRound_after _ _ _ ⟨keeper, bank⟩ ownIds block
    rw [Transaction.paid, paidAmong_eq] at hpaid hafter
    rw [Turn.next, Call.apply, Call.apply, hafter, hafter']
    exact ⟨rfl, payAll_batches hpaid⟩

def Turn.Closes (turn : Turn β) (keeper : Keeper κ) (id : GameId) : Prop :=
  keeper.store.game? id ≠ none ∧ (turn.next keeper).store.game? id = none

omit [AddressCodec κ] in
lemma Turn.call_of_mem_paid {s : Settlement} (h : s ∈ turn.paid keeper) : ∃ block, turn.call = .endRound block := by
  obtain ⟨call, bank⟩ := turn
  cases call with
  | endRound block => exact ⟨block, rfl⟩
  | _ => cases h

structure Keeper.Gone (keeper : Keeper κ) (id : GameId) : Prop where
  game : keeper.store.game? id = none
  commits : keeper.store.commitsOf id = []
  reveals : keeper.store.revealsOf id = []
  commitMove : ∀ {β : Type} [Bank β] (bank : β) (block : Block) (player : String) (commitment : Commitment) {joiner},
    AddressCodec.decode keeper.codec player = .ok joiner →
      Transaction.commitMove block id player commitment ⟨keeper, bank⟩ = .error (.gameNotFound id) ⟨keeper, bank⟩
  revealMove : ∀ {β : Type} (bank : β) (block : Block) (player label salt : String) {address move},
    AddressCodec.decode keeper.codec player = .ok address → Move.ofLabel? label = some move →
      Transaction.revealMove block id player label salt ⟨keeper, bank⟩ = .error (.gameNotFound id) ⟨keeper, bank⟩

namespace Keeper

omit [Bank β] in
lemma gone_of_none (h : keeper.store.WellFormed keeper.codec) (hnone : keeper.store.game? id = none) :
    keeper.Gone id where
  game := hnone
  commits := by
    rw [List.eq_nil_iff_forall_not_mem]
    intro ⟨player, commit⟩ hcommit
    obtain ⟨game, hgame⟩ := h.commitOfGame (GameStore.mem_ofGame.mp hcommit)
    cases hnone.symm.trans hgame
  reveals := by
    rw [List.eq_nil_iff_forall_not_mem]
    intro ⟨player, reveal⟩ hreveal
    obtain ⟨game, hgame⟩ := h.revealOfGame (GameStore.mem_ofGame.mp hreveal)
    cases hnone.symm.trans hgame
  commitMove bank block player commitment joiner hjoiner := by
    have hrefused : keeper.admitCommit block.time id player = .error (.gameNotFound id) := by
      rw [admitCommit, resolve_eq_ok_iff.mpr hjoiner, findGame, hnone]
      rfl
    rw [Transaction.commitMove_eq, hrefused]
  revealMove bank block player label salt address move haddress hmove := by
    have hrefused : keeper.admitReveal block.time id player label salt = .error (.gameNotFound id) := by
      rw [admitReveal, resolve_eq_ok_iff.mpr haddress, ok_bind, hmove, findGame, hnone]
      rfl
    rw [Transaction.revealMove_eq, hrefused]

section Fresh

variable {codec : κ} {authority : String} {config : GameConfig}
  (created : Keeper.new codec authority config = .ok keeper)

include created

lemma new_store : keeper.store = .empty := by
  rw [(new_eq_ok created).2]

lemma accounted (turns : List (Turn β)) : (keeper.after turns).store.Accounted (keeper.paid turns) := by
  induction turns using @history_induction _ β _ _ _ _ (new_wellFormed created) with
  | nil =>
    change keeper.store.Accounted []
    rw [new_store created]
    exact .empty
  | concat turns turn hmet effect ih =>
    rw [paid, gather_concat]
    exact effect.accounted hmet ih

lemma started_eq (turns : List (Turn β)) :
    keeper.started turns = (List.range (keeper.after turns).store.nextId.toNat).map UInt64.ofNat := by
  induction turns using @history_induction _ β _ _ _ _ (new_wellFormed created) with
  | nil =>
    change [] = (List.range keeper.store.nextId.toNat).map _
    rw [new_store created]
    rfl
  | concat turns turn _ effect ih =>
    rw [started, gather_concat, ← started, ih]
    rcases effect.nextId with ⟨hstarted, hnext⟩ | ⟨hstarted, hnext⟩
    · rw [hstarted, hnext]
      exact List.append_nil _
    · rw [hstarted, hnext, List.range_succ, List.map_append, List.map_singleton, UInt64.ofNat_toNat]
      rfl

lemma mem_started : id ∈ keeper.started turns ↔ id < (keeper.after turns).store.nextId := by
  rw [started_eq created, List.mem_map, UInt64.lt_iff_toNat_lt]
  constructor
  · rintro ⟨n, hn, rfl⟩
    rw [List.mem_range] at hn
    rwa [UInt64.toNat_ofNat_of_lt' (Nat.lt_trans hn (UInt64.toNat_lt_size _))]
  · intro h
    exact ⟨id.toNat, List.mem_range.mpr h, UInt64.ofNat_toNat⟩

lemma started_nodup (turns : List (Turn β)) : (keeper.started turns).Nodup := by
  rw [started_eq created]
  refine List.Nodup.map_on (fun m hm n hn he => ?_) List.nodup_range
  rw [List.mem_range] at hm hn
  have hsize := UInt64.toNat_lt_size (keeper.after turns).store.nextId
  have htoNat := congrArg UInt64.toNat he
  rwa [UInt64.toNat_ofNat_of_lt' (Nat.lt_trans hm hsize), UInt64.toNat_ofNat_of_lt' (Nat.lt_trans hn hsize)] at htoNat

lemma started_later (h : id < (keeper.after before).store.nextId) (later : List (Turn β)) :
    id < (keeper.after (before ++ later)).store.nextId := by
  rw [← mem_started created, started, gather_append]
  exact List.mem_append_left _ ((mem_started created).mpr h)

lemma stored_before (h : id < (keeper.after before).store.nextId)
    (stored : (keeper.after (before ++ later)).store.game? id ≠ none) :
    (keeper.after before).store.game? id ≠ none := by
  obtain ⟨_, hunpaid⟩ := ((accounted created (before ++ later)).stored_iff id).mp stored
  refine ((accounted created before).stored_iff id).mpr ⟨h, fun hpaid => hunpaid ?_⟩
  rw [paid, gather_append, List.map_append]
  exact List.mem_append_left _ hpaid

lemma closes_iff :
    turn.Closes (keeper.after before) id ↔ id ∈ (turn.paid (keeper.after before)).map (·.game) := by
  have hbefore := accounted created before
  have hafter := accounted created (before ++ [turn])
  rw [paid, gather_concat, ← paid, after_concat] at hafter
  constructor
  · rintro ⟨hstored, hclosed⟩
    obtain ⟨hstarted, hunpaid⟩ := (hbefore.stored_iff id).mp hstored
    have hstarted' := started_later created hstarted [turn]
    rw [after_concat] at hstarted'
    by_contra hnot
    refine (hafter.stored_iff id).mpr ⟨hstarted', ?_⟩ hclosed
    rw [List.map_append, List.mem_append, not_or]
    exact ⟨hunpaid, hnot⟩
  · intro hpaid
    obtain ⟨s, hs, rfl⟩ := List.mem_map.mp hpaid
    refine ⟨Turn.stored_of_mem_paid (after_ownIds (new_wellFormed created) before) hs, ?_⟩
    by_contra hstored
    refine ((hafter.stored_iff s.game).mp hstored).2 ?_
    rw [List.map_append]
    exact List.mem_append_right _ hpaid

lemma not_closes_later (closes : turn.Closes (keeper.after before) id) (later : List (Turn β)) (turn' : Turn β) :
    ¬ turn'.Closes (keeper.after (before ++ turn :: later)) id := by
  rintro ⟨hstored, _⟩
  obtain ⟨hstarted, _⟩ := ((accounted created before).stored_iff id).mp closes.1
  -- What is stored that late was already stored right after the closing turn.
  rw [List.append_cons] at hstored
  have hthen := stored_before created (started_later created hstarted [turn]) hstored
  rw [after_concat] at hthen
  exact hthen closes.2

lemma closes_unique {before' later' : List (Turn β)} {turn' : Turn β} (closes : turn.Closes (keeper.after before) id)
    (closes' : turn'.Closes (keeper.after before') id) (split : before ++ turn :: later = before' ++ turn' :: later') :
    before' = before := by
  rcases List.append_eq_append_iff.mp split with ⟨mid, rfl, hmid⟩ | ⟨mid, rfl, hmid⟩
  · cases mid with
    | nil => exact List.append_nil _
    | cons first rest =>
      obtain ⟨rfl, _⟩ := List.cons.inj hmid
      exact (not_closes_later created closes rest turn' closes').elim
  · cases mid with
    | nil => exact (List.append_nil _).symm
    | cons first rest =>
      obtain ⟨rfl, _⟩ := List.cons.inj hmid
      exact (not_closes_later created closes' rest turn closes).elim

end Fresh

/-- In every history of a new keeper the games get the ids from zero on, without a gap. A game is stored and no batch
has been accepted for it, or it was closed by one turn, the end of a round, with the one batch that was ever accepted
for it, and stays gone. What counts as accepted is what the bank records and the report of the round lists. -/
theorem settled_exactly_once {codec : κ} {authority : String} {config : GameConfig}
    (created : Keeper.new codec authority config = .ok keeper) (turns : List (Turn β)) :
    keeper.started turns = (List.range (keeper.after turns).store.nextId.toNat).map UInt64.ofNat ∧
    (keeper.started turns).Nodup ∧
    (∀ before turn later, turns = before ++ turn :: later →
      (∀ batches,
        (turn.call.apply ⟨keeper.after before, Recorder.mk turn.bank batches⟩).keeper =
          turn.next (keeper.after before) ∧
        (turn.call.apply ⟨keeper.after before, Recorder.mk turn.bank batches⟩).bank.batches =
          batches ++ (turn.paid (keeper.after before)).map (·.payouts)) ∧
      ∀ block report next, turn.call = .endRound block →
        Transaction.endRound block ⟨keeper.after before, turn.bank⟩ = .ok report next →
          report.settled = turn.paid (keeper.after before)) ∧
    ∀ id ∈ keeper.started turns,
      ((keeper.after turns).store.game? id ≠ none ∧ id ∉ (keeper.paid turns).map (·.game)) ∨
      (((keeper.paid turns).map (·.game)).count id = 1 ∧
        (∃ before turn later block, turns = before ++ turn :: later ∧ turn.call = .endRound block ∧
          turn.Closes (keeper.after before) id ∧ ((turn.paid (keeper.after before)).map (·.game)).count id = 1 ∧
          ∀ before' turn' later', turns = before' ++ turn' :: later' → turn'.Closes (keeper.after before') id →
            before' = before) ∧
        ∀ more : List (Turn β), (keeper.after (turns ++ more)).Gone id) := by
  have hfresh := new_wellFormed created
  refine ⟨started_eq created turns, started_nodup created turns, ?_, fun id hid => ?_⟩
  · intro before turn _ _
    refine ⟨Recorder.apply_turn (after_ownIds hfresh before) turn, fun block report next hcall hend => ?_⟩
    rw [Transaction.endRound_settled hend, Turn.paid, hcall]
  · have haccounted := accounted created turns
    rw [mem_started created] at hid
    by_cases hpaid : id ∈ (keeper.paid turns).map (·.game)
    · refine Or.inr ⟨List.count_eq_one_of_mem haccounted.once hpaid, ?_, fun more => ?_⟩
      · obtain ⟨s, hs, rfl⟩ := List.mem_map.mp hpaid
        obtain ⟨before, turn, later, rfl, hturn⟩ := exists_turn hs
        obtain ⟨block, hcall⟩ := Turn.call_of_mem_paid hturn
        have hpaid : s.game ∈ (turn.paid (keeper.after before)).map (·.game) := List.mem_map_of_mem hturn
        have hcloses := (closes_iff created).mpr hpaid
        have hone := List.count_eq_one_of_mem (Turn.paid_nodup (after_ownIds hfresh before)) hpaid
        exact ⟨before, turn, later, block, rfl, hcall, hcloses, hone,
          fun _ _ _ split closes' => closes_unique created hcloses closes' split⟩
      · refine gone_of_none (after_wellFormed hfresh _) ?_
        by_contra hstored
        exact ((haccounted.stored_iff id).mp (stored_before created hid hstored)).2 hpaid
    · exact Or.inl ⟨(haccounted.stored_iff id).mpr ⟨hid, hpaid⟩, hpaid⟩

end Keeper

namespace Sample

def bank (pool : Amount) : Accounts := { ledger.bank with pool := pool }

def history : List (Turn Accounts) :=
  [⟨.startGame ⟨1, .epoch⟩ "rps1qvdrtkhs" ⟨"z"⟩ ⟨5⟩, bank .zero⟩,
    ⟨.endRound ⟨2, ⟨61, 0, by decide, by decide⟩⟩, bank ⟨4⟩⟩, ⟨.endRound ⟨3, ⟨62, 0, by decide, by decide⟩⟩, bank ⟨5⟩⟩]

end Sample

theorem Keeper.settled_exactly_once_history :
    Sample.fresh.started Sample.history = [0] ∧
      ((Sample.fresh.paid Sample.history).map (·.game)).count 0 = 1 ∧
      ∀ more : List (Turn Accounts), (Sample.fresh.after (Sample.history ++ more)).Gone 0 := by
  have hstarted : Sample.fresh.started Sample.history = [0] := by decide +kernel
  have hclosed : (Sample.fresh.after Sample.history).store.game? 0 = none := by decide +kernel
  obtain ⟨_, _, _, hlives⟩ := settled_exactly_once Sample.new_fresh Sample.history
  rcases hlives 0 (hstarted ▸ List.mem_singleton_self 0) with ⟨hstored, _⟩ | ⟨hcount, _, hgone⟩
  · exact (hstored hclosed).elim
  · exact ⟨hstarted, hcount, hgone⟩

end Roshambo
