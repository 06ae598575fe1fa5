import Roshambo.Proofs.Calls
import Roshambo.Settlement.Round

namespace Roshambo.Transaction

variable {κ β : Type} [Bank β] {ledger next : Ledger κ β} {now : Instant} {id : GameId}

lemma settleGame_eq (now : Instant) (id : GameId) (ledger : Ledger κ β) :
    settleGame now id ledger =
      match ledger.keeper.store.game? id with
      | none => .ok none
      | some game =>
        match Settlement.plan now ledger.keeper.store game with
        | .error e => .error e
        | .ok none => .ok none
        | .ok (some s) =>
          match Bank.payOut ledger.bank s.payouts with
          | .error e => .error (.settlement id e)
          | .ok bank => .ok (some (s,
            Ledger.withStore { ledger with bank := bank } (ledger.keeper.store.removeGame id))) := by
  simp only [settleGame]
  cases ledger.keeper.store.game? id with
  | none => rfl
  | some game =>
    simp only
    cases Settlement.plan now ledger.keeper.store game with
    | error e => rfl
    | ok due =>
      cases due with
      | none => rfl
      | some s =>
        simp only [ok_bind]
        cases Bank.payOut ledger.bank s.payouts <;> rfl

lemma settleGame_of_open {game : Game} (hgame : ledger.keeper.store.game? id = some game)
    (hplan : Settlement.plan now ledger.keeper.store game = .ok none) : settleGame now id ledger = .ok none := by
  simp only [settleGame_eq, hgame, hplan]

lemma settleGame_of_paid {game : Game} {s : Settlement} {bank : β}
    (hgame : ledger.keeper.store.game? id = some game)
    (hplan : Settlement.plan now ledger.keeper.store game = .ok (some s))
    (hpay : Bank.payOut ledger.bank s.payouts = .ok bank) :
    settleGame now id ledger =
      .ok (some (s, Ledger.withStore { ledger with bank := bank } (ledger.keeper.store.removeGame id))) := by
  simp only [settleGame_eq, hgame, hplan, hpay]

lemma settleGame_of_refused {game : Game} {s : Settlement} {cause : LedgerError}
    (hgame : ledger.keeper.store.game? id = some game)
    (hplan : Settlement.plan now ledger.keeper.store game = .ok (some s))
    (hpay : Bank.payOut ledger.bank s.payouts = .error cause) :
    settleGame now id ledger = .error (.settlement id cause) := by
  simp only [settleGame_eq, hgame, hplan, hpay]

lemma settleGame_eq_some {s : Settlement} (h : settleGame now id ledger = .ok (some (s, next))) :
    ∃ game bank, ledger.keeper.store.game? id = some game ∧
      Settlement.plan now ledger.keeper.store game = .ok (some s) ∧
      Bank.payOut ledger.bank s.payouts = .ok bank ∧
      next = Ledger.withStore { ledger with bank := bank } (ledger.keeper.store.removeGame id) := by
  rw [settleGame_eq] at h
  split at h
  · cases h
  · rename_i game hgame
    split at h
    · cases h
    · cases h
    · rename_i s' hplan
      split at h
      · cases h
      · rename_i bank hpay
        obtain ⟨rfl, rfl⟩ := Prod.mk.inj (Option.some.inj (Except.ok.inj h))
        exact ⟨game, bank, hgame, hplan, hpay, rfl⟩

lemma settleGame_eq_error {e : GameError} (h : settleGame now id ledger = .error e) :
    ∃ game, ledger.keeper.store.game? id = some game ∧
      (Settlement.plan now ledger.keeper.store game = .error e ∨
        ∃ s cause, Settlement.plan now ledger.keeper.store game = .ok (some s) ∧
          Bank.payOut ledger.bank s.payouts = .error cause ∧ e = .settlement id cause) := by
  rw [settleGame_eq] at h
  split at h
  · cases h
  · rename_i game hgame
    split at h
    · rename_i e' hplan
      obtain rfl := Except.error.inj h
      exact ⟨game, hgame, Or.inl hplan⟩
    · cases h
    · rename_i s hplan
      split at h
      · rename_i cause hpay
        obtain rfl := Except.error.inj h
        exact ⟨game, hgame, Or.inr ⟨s, cause, hplan, hpay, rfl⟩⟩
      · cases h

lemma settleGames_cons (now : Instant) (id : GameId) (rest : List GameId) (report : SweepReport)
    (ledger : Ledger κ β) :
    settleGames now (id :: rest) report ledger =
      match settleGame now id ledger with
      | .ok none => settleGames now rest report ledger
      | .ok (some (s, next)) => settleGames now rest (report.settle s) next
      | .error e =>
        match ledger.keeper.policy with
        | .failFast => .error e ledger
        | .deferFailed => settleGames now rest (report.defer id) ledger := by
  simp only [settleGames, bind_apply, get_apply]
  cases settleGame now id ledger with
  | error e =>
    cases ledger.keeper.policy <;> rfl
  | ok done =>
    cases done with
    | none => rfl
    | some done => rfl

lemma endRound_eq (block : Block) (ledger : Ledger κ β) :
    endRound block ledger =
      settleGames block.time ledger.keeper.store.games.keys ⟨block.height, [], []⟩ ledger := rfl

end Roshambo.Transaction
