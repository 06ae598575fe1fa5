import Roshambo.Proofs.Refusals
import Roshambo.Proofs.Waiting

namespace Roshambo

namespace GameStore

variable {now later : Instant} {store : GameStore}

def Clears (before after : GameStore) : Prop :=
  ∀ id, before.game? id ≠ none → after.game? id = none → ∀ player,
    after.commits.get? ⟨id, player⟩ = none ∧ after.reveals.get? ⟨id, player⟩ = none

lemma clears_without (store : GameStore) (ids : List GameId) : store.Clears (store.without ids) := by
  intro id stored gone player
  have hid : id ∈ ids := by
    by_contra hkept
    rw [game?_without, if_neg hkept] at gone
    exact stored gone
  simp [without, SortedMap.get?_filter, hid]

def Idle (now : Instant) (store : GameStore) : Prop :=
  ∀ id game, store.game? id = some game → Settlement.Waits now store game

lemma Idle.of_le (idle : store.Idle later) (order : now ≤ later) : store.Idle now :=
  fun id game hgame => (idle id game hgame).of_le order

end GameStore

namespace Settlement

variable {now : Instant} {store next : GameStore} {game : Game} {planned : List Settlement}

lemma waits_without {ids : List GameId} (kept : game.id ∉ ids) :
    Waits now (store.without ids) game ↔ Waits now store game := by
  rw [← plan_eq_none_iff, ← plan_eq_none_iff, plan_without kept]

lemma sweepSteps_waiting {games : List Game} (waits : ∀ g ∈ games, Waits now store g)
    (done : GameStore × List Settlement) : games.foldlM (sweepStep now store) done = .ok done := by
  induction games with
  | nil => rfl
  | cons g rest ih =>
    obtain ⟨hg, hrest⟩ := List.forall_mem_cons.mp waits
    rw [List.foldlM_cons, sweepStep_eq, plan_of_waits hg]
    exact ih hrest

lemma sweep_of_idle (ownIds : store.OwnIds) (idle : store.Idle now) : sweep now store = .ok (store, []) :=
  sweepSteps_waiting (fun g hg => idle g.id g (GameStore.game?_of_mem_values ownIds hg)) _

lemma sweep_idle (ownIds : store.OwnIds) (swept : sweep now store = .ok (next, planned)) : next.Idle now := by
  obtain ⟨hplanned, rfl⟩ := sweep_eq_ok swept
  intro id game hgame
  rw [GameStore.game?_without] at hgame
  split at hgame
  · cases hgame
  · rename_i hkept
    obtain rfl := ownIds id game hgame
    rw [waits_without hkept, ← plan_eq_none_iff]
    cases hplan : plan now store game with
    | error e => exact absurd hplan (hplanned.ne_error game (SortedMap.mem_values.mpr ⟨_, hgame⟩) e)
    | ok due =>
      cases due with
      | none => rfl
      | some s =>
        -- A game that is due was settled by the sweep.
        have hid := plan_game hplan
        have hs : s ∈ planned := (mem_sweep_iff ownIds swept).mpr ⟨game, hid.symm ▸ hgame, hplan⟩
        exact absurd (List.mem_map.mpr ⟨s, hs, hid⟩) hkept

end Settlement

namespace Transaction

variable {κ β : Type} [Bank β] {now : Instant} {block : Block} {ledger next : Ledger κ β} {report report' : SweepReport}

lemma endRound_of_idle (ownIds : ledger.keeper.store.OwnIds) (idle : ledger.keeper.store.Idle block.time) :
    endRound block ledger = .ok ⟨block.height, [], []⟩ ledger :=
  endRound_eq_settlePlanned ownIds (Settlement.sweep_of_idle ownIds idle) ledger.bank

lemma settleGame_eq_none {id : GameId} {game : Game} (h : settleGame now id ledger = .ok none)
    (hgame : ledger.keeper.store.game? id = some game) : Settlement.Waits now ledger.keeper.store game := by
  rw [← Settlement.plan_eq_none_iff]
  simp only [settleGame_eq, hgame] at h
  split at h
  · cases h
  · assumption
  · split at h <;> cases h

lemma paidAmong_complete {ids : List GameId} (ownIds : ledger.keeper.store.OwnIds)
    (h : settleGames now ids report ledger = .ok report' next) :
    ∀ id ∈ ids, ∀ game, ledger.keeper.store.game? id = some game →
      id ∈ (paidAmong now ids ledger).map (·.game) ∨ Settlement.Waits now ledger.keeper.store game ∨
        id ∈ report'.deferred := by
  induction ids generalizing report ledger with
  | nil => simp
  | cons id rest ih =>
    rw [settleGames_cons] at h
    rw [paidAmong]
    cases hsettle : settleGame now id ledger with
    | error e =>
      rw [hsettle] at h
      cases hpolicy : ledger.keeper.policy with
      | failFast =>
        simp only [hpolicy] at h
        cases h
      | deferFailed =>
        simp only [hpolicy] at h
        have hdeferred : id ∈ report'.deferred := by
          rw [settleGames_deferred h]
          simp [SweepReport.defer]
        exact List.forall_mem_cons.mpr ⟨fun _ _ => .inr (.inr hdeferred), ih ownIds h⟩
    | ok done =>
      rw [hsettle] at h
      cases done with
      | none =>
        exact List.forall_mem_cons.mpr ⟨fun game hgame => .inr (.inl (settleGame_eq_none hsettle hgame)), ih ownIds h⟩
      | some done =>
        obtain ⟨s, after⟩ := done
        obtain ⟨rfl, _, bank, _, rfl⟩ := settleGame_eq_paid ownIds hsettle
        refine List.forall_mem_cons.mpr ⟨fun game _ => .inl List.mem_cons_self, fun id' hid' game hgame => ?_⟩
        by_cases hsame : id' = s.game
        · rw [hsame]
          exact .inl List.mem_cons_self
        · have hkept : id' ∉ [s.game] := fun hmem => hsame (List.mem_singleton.mp hmem)
          have hleft : (ledger.keeper.store.without [s.game]).game? id' = some game := by
            rw [GameStore.game?_without, if_neg hkept, hgame]
          rcases ih (ownIds.without [s.game]) h id' hid' game hleft with hpaid | hwaits | hdeferred
          · exact .inl (List.mem_cons_of_mem _ hpaid)
          · rw [← ownIds id' game hgame] at hkept
            exact .inr (.inl ((Settlement.waits_without hkept).mp hwaits))
          · exact .inr (.inr hdeferred)

lemma endRound_complete (ownIds : ledger.keeper.store.OwnIds) (h : endRound block ledger = .ok report next)
    {id : GameId} {game : Game} (stored : ledger.keeper.store.game? id = some game) :
    id ∈ (paid block ledger).map (·.game) ∨ Settlement.Waits block.time ledger.keeper.store game ∨
      id ∈ report.deferred :=
  paidAmong_complete ownIds h id (SortedMap.mem_keys.mpr ⟨game, stored⟩) game stored

lemma endRound_due {s : Settlement} (ownIds : ledger.keeper.store.OwnIds)
    (due : Settlement.Due block.time ledger.keeper.store s) (h : endRound block ledger = .ok report next) :
    (s ∈ report.settled ∨ s.game ∈ report.deferred) ∧ ∀ t ∈ report.settled, t.game = s.game → t = s := by
  rw [endRound_settled h]
  have unique : ∀ t ∈ paid block ledger, t.game = s.game → t = s := fun t ht hgame =>
    (due_of_mem_paid ownIds ht).unique due hgame
  refine ⟨?_, unique⟩
  obtain ⟨game, hgame, hplan⟩ := due
  rcases endRound_complete ownIds h hgame with hpaid | hwaits | hdeferred
  · obtain ⟨t, ht, hid⟩ := List.mem_map.mp hpaid
    exact .inl (unique t ht hid ▸ ht)
  · cases hplan.symm.trans (Settlement.plan_of_waits hwaits)
  · exact .inr hdeferred

lemma endRound_clears (ownIds : ledger.keeper.store.OwnIds) (block : Block) :
    ledger.keeper.store.Clears ((endRound block).after ledger).keeper.store := by
  obtain ⟨bank, _, hafter⟩ := endRound_after ownIds block
  rw [hafter]
  exact GameStore.clears_without _ _

lemma endRound_idle (ownIds : ledger.keeper.store.OwnIds) (h : endRound block ledger = .ok report next)
    (complete : report.deferred = []) : next.keeper.store.OwnIds ∧ next.keeper.store.Idle block.time := by
  obtain ⟨bank, _, hafter⟩ := endRound_after ownIds block
  rw [after, h] at hafter
  obtain rfl := hafter
  refine ⟨ownIds.without _, fun id game hgame => ?_⟩
  change (ledger.keeper.store.without _).game? id = some game at hgame
  rw [GameStore.game?_without] at hgame
  split at hgame
  · cases hgame
  · rename_i hkept
    obtain rfl := ownIds id game hgame
    rcases endRound_complete ownIds h hgame with hpaid | hwaits | hdeferred
    · exact absurd hpaid hkept
    · exact (Settlement.waits_without hkept).mpr hwaits
    · rw [complete] at hdeferred
      cases hdeferred

end Transaction

/-- What was completed at a time leaves nothing due then or before. After a sweep, or after a round that has deferred no
game, every game waits, and nothing is done again; a game that either has removed leaves no record. -/
theorem Settlement.nothing_left_due :
    (∀ {store next : GameStore} {now : Instant} {planned : List Settlement}, store.Built →
      sweep now store = .ok (next, planned) →
        store.Clears next ∧ ∀ earlier, earlier ≤ now → sweep earlier next = .ok (next, [])) ∧
    ∀ {κ β : Type} [Bank β] {keeper : Keeper κ} {bank : β} {block : Block}, keeper.store.Built →
      keeper.store.Clears ((Transaction.endRound block).after ⟨keeper, bank⟩).keeper.store ∧
      ∀ report next, Transaction.endRound block ⟨keeper, bank⟩ = .ok report next → report.deferred = [] →
        next.keeper.store.Idle block.time ∧ ∀ again : Block, again.time ≤ block.time →
          Transaction.endRound again next = .ok ⟨again.height, [], []⟩ next := by
  constructor
  · intro store next now planned built swept
    have idle := sweep_idle built.ownIds swept
    obtain ⟨_, rfl⟩ := sweep_eq_ok swept
    exact ⟨GameStore.clears_without _ _, fun earlier order =>
      sweep_of_idle (built.ownIds.without _) (idle.of_le order)⟩
  · intro κ β _ keeper bank block built
    have ownIds : (Ledger.mk keeper bank).keeper.store.OwnIds := built.ownIds
    refine ⟨Transaction.endRound_clears ownIds block, fun report next hend complete => ?_⟩
    obtain ⟨ownIds, idle⟩ := Transaction.endRound_idle ownIds hend complete
    exact ⟨idle, fun again order => Transaction.endRound_of_idle ownIds (idle.of_le order)⟩

namespace Sample

def crowdedKeeper : Keeper Bech32Codec := { loaded with store := crowded }

lemma endRound_crowded : Transaction.endRound block ⟨crowdedKeeper, ledger.bank⟩ =
    .ok ⟨1, [settlement], []⟩ ⟨{ crowdedKeeper with store := crowded.without [0] }, paid⟩ := by
  have ownIds : crowdedKeeper.store.OwnIds := crowded_built.ownIds
  have swept : Settlement.sweep block.time crowdedKeeper.store = .ok (crowded.without [0], [settlement]) :=
    sweep_crowded
  exact Transaction.endRound_of_paid ownIds swept pay_settlement

end Sample

theorem Settlement.nothing_left_due_crowded :
    sweep .epoch (Sample.crowded.without [0]) = .ok (Sample.crowded.without [0], []) ∧
    (Sample.crowded.without [0]).commits.get? ⟨0, ⟨[1]⟩⟩ = none ∧
    ∃ report next, Transaction.endRound Sample.block ⟨Sample.crowdedKeeper, Sample.ledger.bank⟩ = .ok report next ∧
      next.keeper.store.games.keys = [1] ∧ Transaction.endRound ⟨2, .epoch⟩ next = .ok ⟨2, [], []⟩ next := by
  have start : Instant.epoch ≤ .epoch := Instant.le_refl _
  obtain ⟨clears, again⟩ := nothing_left_due.1 Sample.crowded_built Sample.sweep_crowded
  have stored : Sample.crowded.game? 0 ≠ none := by decide +kernel
  have gone : (Sample.crowded.without [0]).game? 0 = none := by decide +kernel
  have built : Sample.crowdedKeeper.store.Built := Sample.crowded_built
  obtain ⟨_, rounds⟩ := nothing_left_due
  have complete := (@rounds _ _ _ _ Sample.ledger.bank Sample.block built).2
  refine ⟨again .epoch start, (clears 0 stored gone ⟨[1]⟩).1, _, _, Sample.endRound_crowded, by decide +kernel, ?_⟩
  exact (complete _ _ Sample.endRound_crowded rfl).2 ⟨2, .epoch⟩ start

end Roshambo
