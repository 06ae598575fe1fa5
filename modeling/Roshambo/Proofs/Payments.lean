import Roshambo.Proofs.Sweep

/-! The payments of a round: the batches that the bank accepts, of games that were due, and nothing else that a round
changes. -/

namespace Roshambo

variable {κ β : Type} {now : Instant} {store : GameStore}

abbrev GameStore.OwnIds (store : GameStore) : Prop := ∀ id game, store.game? id = some game → game.id = id

lemma GameStore.OwnIds.without (ownIds : store.OwnIds) (gone : List GameId) : (store.without gone).OwnIds := by
  intro id game hgame
  rw [game?_without] at hgame
  split at hgame
  · cases hgame
  · exact ownIds id game hgame

namespace Settlement

def Due (now : Instant) (store : GameStore) (s : Settlement) : Prop :=
  ∃ game, store.game? s.game = some game ∧ plan now store game = .ok (some s)

lemma Due.unique {s t : Settlement} (hs : Due now store s) (ht : Due now store t) (h : s.game = t.game) : s = t := by
  obtain ⟨game, hgame, hplan⟩ := hs
  obtain ⟨game', hgame', hplan'⟩ := ht
  rw [h, hgame'] at hgame
  obtain rfl := Option.some.inj hgame
  rw [hplan'] at hplan
  exact (Option.some.inj (Except.ok.inj hplan)).symm

lemma due_without {ids : List GameId} {s : Settlement} :
    Due now (store.without ids) s ↔ Due now store s ∧ s.game ∉ ids := by
  constructor
  · rintro ⟨game, hgame, hplan⟩
    have hid := plan_game hplan
    rw [GameStore.game?_without] at hgame
    split at hgame
    · cases hgame
    · rename_i hkept
      rw [plan_without (hid ▸ hkept)] at hplan
      exact ⟨⟨game, hgame, hplan⟩, hkept⟩
  · rintro ⟨⟨game, hgame, hplan⟩, hkept⟩
    have hid := plan_game hplan
    refine ⟨game, ?_, (plan_without (hid ▸ hkept)).trans hplan⟩
    rw [GameStore.game?_without, if_neg hkept]
    exact hgame

def payAll [Bank β] (settlements : List Settlement) (bank : β) : Except LedgerError β :=
  settlements.foldlM (fun bank s => Bank.payOut bank s.payouts) bank

lemma payAll_cons [Bank β] (s : Settlement) (rest : List Settlement) (bank : β) :
    payAll (s :: rest) bank = Bank.payOut bank s.payouts >>= payAll rest := rfl

lemma payAll_append [Bank β] (before after : List Settlement) (bank : β) :
    payAll (before ++ after) bank = payAll before bank >>= payAll after :=
  List.foldlM_append

end Settlement

open Settlement

namespace Transaction

variable [Bank β]

def paidAmong (now : Instant) : List GameId → Ledger κ β → List Settlement
  | [], _ => []
  | id :: rest, ledger =>
    match settleGame now id ledger with
    | .ok none => paidAmong now rest ledger
    | .ok (some (s, next)) => s :: paidAmong now rest next
    | .error _ =>
      match ledger.keeper.policy with
      | .failFast => []
      | .deferFailed => paidAmong now rest ledger

variable {ids : List GameId} {ledger next : Ledger κ β}

lemma settleGame_eq_paid (ownIds : ledger.keeper.store.OwnIds) {id : GameId} {s : Settlement}
    (h : settleGame now id ledger = .ok (some (s, next))) :
    id = s.game ∧ Due now ledger.keeper.store s ∧ ∃ bank, Bank.payOut ledger.bank s.payouts = .ok bank ∧
      next = Ledger.withStore { ledger with bank := bank } (ledger.keeper.store.without [s.game]) := by
  obtain ⟨game, bank, hgame, hplan, hpay, rfl⟩ := settleGame_eq_some h
  have hid : id = s.game := (ownIds id game hgame).symm.trans (plan_game hplan).symm
  refine ⟨hid, ⟨game, hid ▸ hgame, hplan⟩, bank, hpay, ?_⟩
  rw [hid, GameStore.removeGame_eq_without]

lemma paidAmong_sublist (ownIds : ledger.keeper.store.OwnIds) :
    ((paidAmong now ids ledger).map (·.game)).Sublist ids := by
  fun_induction paidAmong now ids ledger with
  | case1 => exact .slnil
  | case2 id rest ledger _ ih => exact (ih ownIds).cons id
  | case3 id rest ledger s next h ih =>
    obtain ⟨rfl, _, bank, _, rfl⟩ := settleGame_eq_paid ownIds h
    exact (ih (ownIds.without _)).cons_cons s.game
  | case4 id rest ledger _ _ _ => exact List.nil_sublist _
  | case5 id rest ledger _ _ _ ih => exact (ih ownIds).cons id

lemma due_of_mem_paidAmong (ownIds : ledger.keeper.store.OwnIds) {s : Settlement} (h : s ∈ paidAmong now ids ledger) :
    Due now ledger.keeper.store s := by
  fun_induction paidAmong now ids ledger with
  | case1 => cases h
  | case2 id rest ledger _ ih => exact ih ownIds h
  | case3 id rest ledger t next hsettle ih =>
    obtain ⟨_, hdue, bank, _, rfl⟩ := settleGame_eq_paid ownIds hsettle
    rcases List.mem_cons.mp h with rfl | h
    · exact hdue
    · exact (due_without.mp (ih (ownIds.without _) h)).1
  | case4 id rest ledger _ _ _ => cases h
  | case5 id rest ledger _ _ _ ih => exact ih ownIds h

lemma settleGames_after (ownIds : ledger.keeper.store.OwnIds) (report : SweepReport) :
    ∃ bank, payAll (paidAmong now ids ledger) ledger.bank = .ok bank ∧
      (settleGames now ids report).after ledger = Ledger.withStore { ledger with bank := bank }
        (ledger.keeper.store.without ((paidAmong now ids ledger).map (·.game))) := by
  induction ids generalizing report ledger with
  | nil =>
    refine ⟨ledger.bank, rfl, ?_⟩
    rw [paidAmong, List.map_nil, GameStore.without_nil]
    rfl
  | cons id rest ih =>
    rw [after, settleGames_cons, paidAmong]
    cases h : settleGame now id ledger with
    | error e =>
      cases hpolicy : ledger.keeper.policy with
      | failFast =>
        refine ⟨ledger.bank, rfl, ?_⟩
        rw [List.map_nil, GameStore.without_nil]
        rfl
      | deferFailed => exact ih ownIds _
    | ok done =>
      cases done with
      | none => exact ih ownIds _
      | some done =>
        obtain ⟨s, next⟩ := done
        obtain ⟨rfl, _, bank, hpay, rfl⟩ := settleGame_eq_paid ownIds h
        obtain ⟨bank', hpaid, hafter⟩ := @ih (Ledger.withStore { ledger with bank := bank }
          (ledger.keeper.store.without [s.game])) (ownIds.without _) (report.settle s)
        refine ⟨bank', ?_, ?_⟩
        · rw [payAll_cons, hpay]
          exact hpaid
        · refine hafter.trans ?_
          simp only [Ledger.withStore, GameStore.without_without, List.map_cons, List.singleton_append]

lemma settleGames_settled {report report' : SweepReport} (h : settleGames now ids report ledger = .ok report' next) :
    report'.settled = report.settled ++ paidAmong now ids ledger := by
  induction ids generalizing report ledger with
  | nil =>
    cases h
    exact (List.append_nil _).symm
  | cons id rest ih =>
    rw [settleGames_cons] at h
    rw [paidAmong]
    cases hsettle : settleGame now id ledger with
    | error e =>
      simp only [hsettle] at h
      cases hpolicy : ledger.keeper.policy with
      | failFast =>
        simp only [hpolicy] at h
        cases h
      | deferFailed =>
        simp only [hpolicy] at h
        exact (ih h :)
    | ok done =>
      simp only [hsettle] at h
      cases done with
      | none => exact ih h
      | some done =>
        rw [ih h]
        simp only [SweepReport.settle, List.append_assoc, List.singleton_append]

def paid (block : Block) (ledger : Ledger κ β) : List Settlement :=
  paidAmong block.time ledger.keeper.store.games.keys ledger

variable {block : Block}

lemma paid_nodup (ownIds : ledger.keeper.store.OwnIds) : ((paid block ledger).map (·.game)).Nodup :=
  ledger.keeper.store.games.keys_nodup.sublist (paidAmong_sublist ownIds)

lemma due_of_mem_paid (ownIds : ledger.keeper.store.OwnIds) {s : Settlement} (h : s ∈ paid block ledger) :
    Due block.time ledger.keeper.store s :=
  due_of_mem_paidAmong ownIds h

lemma endRound_after (ownIds : ledger.keeper.store.OwnIds) (block : Block) :
    ∃ bank, payAll (paid block ledger) ledger.bank = .ok bank ∧
      (endRound block).after ledger = Ledger.withStore { ledger with bank := bank }
        (ledger.keeper.store.without ((paid block ledger).map (·.game))) :=
  settleGames_after ownIds ⟨block.height, [], []⟩

lemma endRound_settled {report : SweepReport} (h : endRound block ledger = .ok report next) :
    report.settled = paid block ledger :=
  settleGames_settled h

end Transaction

structure Recorder (β : Type) where
  bank : β
  batches : List (List Payout)

namespace Recorder

variable [Bank β]

instance : Bank (Recorder β) where
  deposit r payer amount := return { r with bank := ← Bank.deposit r.bank payer amount }
  payOut r payouts := return ⟨← Bank.payOut r.bank payouts, r.batches ++ [payouts]⟩

lemma payOut_eq (r : Recorder β) (payouts : List Payout) :
    Bank.payOut r payouts =
      match Bank.payOut r.bank payouts with
      | .error e => .error e
      | .ok bank => .ok ⟨bank, r.batches ++ [payouts]⟩ := by
  change Bank.payOut r.bank payouts >>= (fun bank => .ok (Recorder.mk bank (r.batches ++ [payouts]))) = _
  cases Bank.payOut r.bank payouts <;> rfl

lemma deposit_eq (r : Recorder β) (payer : Address) (amount : Amount) :
    Bank.deposit r payer amount =
      match Bank.deposit r.bank payer amount with
      | .error e => .error e
      | .ok bank => .ok ⟨bank, r.batches⟩ := by
  change Bank.deposit r.bank payer amount >>= (fun bank => .ok (Recorder.mk bank r.batches)) = _
  cases Bank.deposit r.bank payer amount <;> rfl

lemma payAll_batches {settlements : List Settlement} {r r' : Recorder β} (h : payAll settlements r = .ok r') :
    r'.batches = r.batches ++ settlements.map (·.payouts) := by
  induction settlements generalizing r with
  | nil =>
    obtain rfl := Except.ok.inj h
    exact (List.append_nil _).symm
  | cons s rest ih =>
    rw [payAll_cons, bind_eq_ok_iff] at h
    obtain ⟨middle, hmiddle, h⟩ := h
    rw [payOut_eq] at hmiddle
    cases hpay : Bank.payOut r.bank s.payouts with
    | error e =>
      rw [hpay] at hmiddle
      cases hmiddle
    | ok bank =>
      rw [hpay] at hmiddle
      obtain rfl := Except.ok.inj hmiddle
      rw [ih h, List.map_cons, List.append_assoc, List.singleton_append]

lemma settleGame_eq (now : Instant) (id : GameId) (keeper : Keeper κ) (bank : β) (batches : List (List Payout)) :
    Transaction.settleGame now id ⟨keeper, Recorder.mk bank batches⟩ =
      match Transaction.settleGame now id ⟨keeper, bank⟩ with
      | .error e => .error e
      | .ok none => .ok none
      | .ok (some (s, next)) => .ok (some (s, ⟨next.keeper, ⟨next.bank, batches ++ [s.payouts]⟩⟩)) := by
  rw [Transaction.settleGame_eq, Transaction.settleGame_eq]
  cases keeper.store.game? id with
  | none => rfl
  | some game =>
    simp only
    cases plan now keeper.store game with
    | error e => rfl
    | ok due =>
      cases due with
      | none => rfl
      | some s =>
        simp only [payOut_eq]
        cases Bank.payOut bank s.payouts <;> rfl

lemma paidAmong_eq (now : Instant) (ids : List GameId) (keeper : Keeper κ) (bank : β) (batches : List (List Payout)) :
    Transaction.paidAmong now ids ⟨keeper, Recorder.mk bank batches⟩ =
      Transaction.paidAmong now ids ⟨keeper, bank⟩ := by
  induction ids generalizing keeper bank batches with
  | nil => rfl
  | cons id rest ih =>
    rw [Transaction.paidAmong, Transaction.paidAmong, settleGame_eq]
    cases Transaction.settleGame now id ⟨keeper, bank⟩ with
    | error e =>
      cases keeper.policy with
      | failFast => rfl
      | deferFailed => exact ih keeper bank batches
    | ok done =>
      cases done with
      | none => exact ih keeper bank batches
      | some done => exact congrArg (done.1 :: ·) (ih done.2.keeper done.2.bank _)

end Recorder

end Roshambo
