import Roshambo.Proofs.Solvency

namespace Roshambo

variable {κ β : Type}

/-- A game that a round could not settle, in the state in which the round came to it. -/
structure Refusal (κ β : Type) where
  ledger : Ledger κ β
  game : GameId
  error : GameError

namespace Transaction

variable [Bank β]

def refusals (now : Instant) : List GameId → Ledger κ β → List (Refusal κ β)
  | [], _ => []
  | id :: rest, ledger =>
    match settleGame now id ledger with
    | .ok none => refusals now rest ledger
    | .ok (some (_, next)) => refusals now rest next
    | .error e =>
      match ledger.keeper.policy with
      | .failFast => [⟨ledger, id, e⟩]
      | .deferFailed => ⟨ledger, id, e⟩ :: refusals now rest ledger

variable {now : Instant} {ids : List GameId} {ledger : Ledger κ β} {r : Refusal κ β}

lemma refusals_induct {P : Ledger κ β → Prop} (hledger : P ledger)
    (hstep : ∀ {l id s next}, P l → settleGame now id l = .ok (some (s, next)) → P next)
    (hr : r ∈ refusals now ids ledger) : P r.ledger ∧ settleGame now r.game r.ledger = .error r.error := by
  induction ids generalizing ledger with
  | nil => cases hr
  | cons id rest ih =>
    rw [refusals] at hr
    cases hsettle : settleGame now id ledger with
    | error e =>
      simp only [hsettle] at hr
      cases hpolicy : ledger.keeper.policy with
      | failFast =>
        simp only [hpolicy, List.mem_singleton] at hr
        rw [hr]
        exact ⟨hledger, hsettle⟩
      | deferFailed =>
        simp only [hpolicy, List.mem_cons] at hr
        rcases hr with hr | hr
        · rw [hr]
          exact ⟨hledger, hsettle⟩
        · exact ih hledger hr
    | ok done =>
      cases done with
      | none =>
        simp only [hsettle] at hr
        exact ih hledger hr
      | some done =>
        simp only [hsettle] at hr
        exact ih (hstep hledger hsettle) hr

lemma settleGames_deferred {report report' : SweepReport} {next : Ledger κ β}
    (h : settleGames now ids report ledger = .ok report' next) :
    report'.deferred = report.deferred ++ (refusals now ids ledger).map (·.game) := by
  induction ids generalizing report ledger with
  | nil =>
    cases h
    simp [refusals]
  | cons id rest ih =>
    rw [settleGames_cons] at h
    rw [refusals]
    cases hsettle : settleGame now id ledger with
    | error e =>
      simp only [hsettle] at h
      cases hpolicy : ledger.keeper.policy with
      | failFast =>
        simp only [hpolicy] at h
        cases h
      | deferFailed =>
        simp only [hpolicy] at h
        rw [ih h]
        simp only [SweepReport.defer, List.map_cons, List.append_assoc, List.singleton_append]
    | ok done =>
      simp only [hsettle] at h
      cases done with
      | none => exact ih h
      | some done =>
        have hrest := ih h
        exact hrest

lemma settleGames_error {report : SweepReport} {e : GameError} {next : Ledger κ β}
    (h : settleGames now ids report ledger = .error e next) : ∃ r ∈ refusals now ids ledger, r.error = e := by
  induction ids generalizing report ledger with
  | nil => cases h
  | cons id rest ih =>
    rw [settleGames_cons] at h
    rw [refusals]
    cases hsettle : settleGame now id ledger with
    | error e' =>
      simp only [hsettle] at h
      cases hpolicy : ledger.keeper.policy with
      | failFast =>
        simp only [hpolicy] at h
        cases h
        exact ⟨_, List.mem_singleton_self _, rfl⟩
      | deferFailed =>
        simp only [hpolicy] at h
        obtain ⟨r, hr, he⟩ := ih h
        exact ⟨r, List.mem_cons_of_mem _ hr, he⟩
    | ok done =>
      simp only [hsettle] at h
      cases done with
      | none => exact ih h
      | some done => exact ih h

end Transaction

namespace Ledger

variable {ledger next : Ledger κ Accounts} {now : Instant} {id : GameId}

def Overfull (ledger : Ledger κ Accounts) (now : Instant) (id : GameId) (e : GameError) : Prop :=
  ∃ game s p, ledger.keeper.store.game? id = some game ∧
    Settlement.plan now ledger.keeper.store game = .ok (some s) ∧ p ∈ s.payouts ∧
    UInt64.size ≤ (ledger.bank.balance p.recipient).toNat + Payout.owed s.payouts p.recipient ∧
    e = .settlement id (.overflow s!"balance of {p.recipient}")

lemma Overfull.ne {e : GameError} (h : ledger.Overfull now id e) :
    (∀ owner need available, e ≠ .settlement id (.insufficientFunds owner need available)) ∧
      e ≠ .settlement id (.overflow "payout batch total") ∧ ∀ what, e ≠ .overflow what := by
  obtain ⟨game, s, p, _, _, _, _, rfl⟩ := h
  refine ⟨fun _ _ _ he => ?_, fun he => ?_, fun _ he => ?_⟩
  · cases he
  · have htext := (LedgerError.overflow.inj (GameError.settlement.inj he).2)
    have hlead : toString "balance of " = "balance of " := rfl
    have hhead := congrArg (fun text => text.toList.head?) htext
    simp [hlead, String.toList_append] at hhead
  · cases he

lemma supply_settleGame {s : Settlement} (settled : Transaction.settleGame now id ledger = .ok (some (s, next))) :
    next.bank.supply = ledger.bank.supply := by
  obtain ⟨game, bank, _, _, hpay, rfl⟩ := Transaction.settleGame_eq_some settled
  exact Accounts.supply_payOut hpay

variable [AddressCodec κ]

def Covered (ledger : Ledger κ Accounts) : Prop :=
  ledger.keeper.store.WellFormed ledger.keeper.codec ∧ ledger.keeper.store.stakes ≤ ledger.bank.pool.toNat

lemma Covered.settle (h : ledger.Covered) {s : Settlement}
    (settled : Transaction.settleGame now id ledger = .ok (some (s, next))) : next.Covered := by
  have hbalance := (Step.settle settled).pool_balance h.1
  have hcovered := h.2
  refine ⟨(Step.settle settled).wellFormed h.1, ?_⟩
  omega

lemma Covered.total_le_pool (h : ledger.Covered) {game : Game} {s : Settlement}
    (hgame : ledger.keeper.store.game? game.id = some game)
    (hplan : Settlement.plan now ledger.keeper.store game = .ok (some s)) :
    Payout.total s.payouts ≤ ledger.bank.pool.toNat := by
  have hstakes := ledger.keeper.store.stakes_removeGame game.id
  rw [GameStore.feeOf_eq hgame] at hstakes
  have hcovered := h.2
  rw [Settlement.total_of_plan h.1 hgame hplan]
  omega

lemma Covered.refused (h : ledger.Covered) {e : GameError} (refused : Transaction.settleGame now id ledger = .error e) :
    ∃ game s cause, ledger.keeper.store.game? id = some game ∧
      Settlement.plan now ledger.keeper.store game = .ok (some s) ∧
      Payout.total s.payouts ≤ ledger.bank.pool.toNat ∧ ledger.bank.payOut s.payouts = .error cause ∧
      e = .settlement id cause := by
  obtain ⟨game, hgame, hrest⟩ := Transaction.settleGame_eq_error refused
  have hid := h.1.ownId hgame
  have hgame' : ledger.keeper.store.game? game.id = some game := hid.symm ▸ hgame
  rcases hrest with hplan | ⟨s, cause, hplan, hpay, he⟩
  · exact (Settlement.plan_ne_error h.1 hgame' e hplan).elim
  · exact ⟨game, s, cause, hgame, hplan, h.total_le_pool hgame' hplan, hpay, he⟩

lemma Covered.overfull (h : ledger.Covered) {e : GameError}
    (refused : Transaction.settleGame now id ledger = .error e) : ledger.Overfull now id e := by
  obtain ⟨game, s, cause, hgame, hplan, hpool, hpay, rfl⟩ := h.refused refused
  obtain ⟨p, hp, rfl, hfull⟩ := Accounts.payOut_eq_error hpool hpay
  exact ⟨game, s, p, hgame, hplan, hp, hfull, rfl⟩

lemma Covered.settles (h : ledger.Covered) (hsupply : ledger.bank.supply < UInt64.size) (e : GameError) :
    Transaction.settleGame now id ledger ≠ .error e := by
  intro refused
  obtain ⟨_, s, cause, _, _, hpool, hpay, _⟩ := h.refused refused
  obtain ⟨after, hafter⟩ := Accounts.payOut_of_supply hpool hsupply
  cases hafter.symm.trans hpay

lemma Covered.refusals_overfull (h : ledger.Covered) {ids : List GameId} {r : Refusal κ Accounts}
    (hr : r ∈ Transaction.refusals now ids ledger) : r.ledger.Overfull now r.game r.error := by
  have hstep : ∀ {l : Ledger κ Accounts} {id s next}, l.Covered →
      Transaction.settleGame now id l = .ok (some (s, next)) → next.Covered := fun hl => hl.settle
  obtain ⟨hcovered, refused⟩ := Transaction.refusals_induct h hstep hr
  exact hcovered.overfull refused

lemma Covered.refusals_eq_nil (h : ledger.Covered) (hsupply : ledger.bank.supply < UInt64.size) (ids : List GameId) :
    Transaction.refusals now ids ledger = [] := by
  rw [List.eq_nil_iff_forall_not_mem]
  intro r hr
  have hstep : ∀ {l : Ledger κ Accounts} {id s next}, l.Covered ∧ l.bank.supply < UInt64.size →
      Transaction.settleGame now id l = .ok (some (s, next)) → next.Covered ∧ next.bank.supply < UInt64.size :=
    fun hl settled => ⟨hl.1.settle settled, (supply_settleGame settled).symm ▸ hl.2⟩
  obtain ⟨hrefused, refused⟩ := Transaction.refusals_induct ⟨h, hsupply⟩ hstep hr
  exact hrefused.1.settles hrefused.2 r.error refused

end Ledger

variable [AddressCodec κ]

/-- When the pool covers the stakes, a round refuses a payout only where it would overfill an account, and refuses
none when all money together is an amount. -/
theorem Keeper.round_refusals {keeper : Keeper κ} {bank : Accounts} {stakes : Amount} (reachable : keeper.Reachable)
    (known : keeper.outstandingStakes = .ok stakes) (covered : stakes ≤ bank.pool) (block : Block) :
    (∀ r ∈ Transaction.refusals block.time keeper.store.games.keys ⟨keeper, bank⟩,
      r.ledger.Overfull block.time r.game r.error ∧
      (∀ owner need available, r.error ≠ .settlement r.game (.insufficientFunds owner need available)) ∧
      r.error ≠ .settlement r.game (.overflow "payout batch total") ∧ ∀ what, r.error ≠ .overflow what) ∧
    (∀ report next, Transaction.endRound block ⟨keeper, bank⟩ = .ok report next → report.deferred =
      (Transaction.refusals block.time keeper.store.games.keys ⟨keeper, bank⟩).map (·.game)) ∧
    (∀ e next, Transaction.endRound block ⟨keeper, bank⟩ = .error e next →
      ∃ r ∈ Transaction.refusals block.time keeper.store.games.keys ⟨keeper, bank⟩, r.error = e) ∧
    (bank.supply < UInt64.size →
      ∃ report next, Transaction.endRound block ⟨keeper, bank⟩ = .ok report next ∧ report.deferred = []) := by
  obtain ⟨_, htotal⟩ := Keeper.outstandingStakes_eq_ok_iff.mp known
  have hledger : Ledger.Covered ⟨keeper, bank⟩ := ⟨reachable.wellFormed, htotal ▸ Amount.le_iff.mp covered⟩
  have hdeferred : ∀ report next, Transaction.endRound block ⟨keeper, bank⟩ = .ok report next → report.deferred =
      (Transaction.refusals block.time keeper.store.games.keys ⟨keeper, bank⟩).map (·.game) :=
    fun report next hend => Transaction.settleGames_deferred hend
  have herror : ∀ e next, Transaction.endRound block ⟨keeper, bank⟩ = .error e next →
      ∃ r ∈ Transaction.refusals block.time keeper.store.games.keys ⟨keeper, bank⟩, r.error = e :=
    fun e next hend => Transaction.settleGames_error hend
  refine ⟨fun r hr => ?_, hdeferred, herror, fun hsupply => ?_⟩
  · have hfull := hledger.refusals_overfull hr
    exact ⟨hfull, hfull.ne⟩
  · have hnone : Transaction.refusals block.time keeper.store.games.keys ⟨keeper, bank⟩ = [] :=
      hledger.refusals_eq_nil hsupply _
    cases hend : Transaction.endRound block ⟨keeper, bank⟩ with
    | ok report next =>
      refine ⟨report, next, rfl, ?_⟩
      rw [hdeferred report next hend, hnone]
      rfl
    | error e next =>
      obtain ⟨r, hr, _⟩ := herror e next hend
      rw [hnone] at hr
      cases hr

def Sample.full : Ledger Bech32Codec Accounts :=
  ⟨loaded, ⟨"rps", ⟨10⟩, (∅ : SortedMap Address Amount).insert ⟨[2]⟩ ⟨18446744073709551615⟩⟩⟩

theorem Keeper.round_refusals_full :
    (Transaction.refusals .epoch Sample.loaded.store.games.keys Sample.full).map (·.error) =
      [.settlement 0 (.overflow "balance of 02")] ∧
    (∀ r ∈ Transaction.refusals .epoch Sample.loaded.store.games.keys Sample.full,
      r.ledger.Overfull .epoch r.game r.error) ∧
    ∃ report next, Transaction.endRound ⟨1, .epoch⟩ Sample.ledger = .ok report next ∧ report.deferred = [] := by
  have hle : Sample.ledger.bank.pool ≤ Sample.ledger.bank.pool := Amount.le_iff.mpr (Nat.le_refl _)
  have hfull : Sample.ledger.bank.pool ≤ Sample.full.bank.pool := hle
  refine ⟨by decide +kernel, fun r hr => ?_, ?_⟩
  · exact ((round_refusals Sample.loaded_reachable Sample.outstandingStakes_ledger hfull ⟨1, .epoch⟩).1 r hr).1
  · have hsupply : Sample.ledger.bank.supply < UInt64.size := by decide +kernel
    exact (round_refusals Sample.loaded_reachable Sample.outstandingStakes_ledger hle ⟨1, .epoch⟩).2.2.2 hsupply

end Roshambo
