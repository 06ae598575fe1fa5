import Roshambo.Proofs.Payouts
import Roshambo.Proofs.Round

/-! Closing one game changes nothing that another one's plan reads, so a round does what was planned, as far as the
bank pays. -/

namespace Roshambo

variable {κ β : Type} {now : Instant} {store : GameStore}

namespace Settlement

lemma plan_without {ids : List GameId} {game : Game} (h : game.id ∉ ids) :
    plan now (store.without ids) game = plan now store game := by
  simp only [plan, GameStore.commitsOf_without, GameStore.revealsOf_without, if_neg h]

inductive Planned (now : Instant) (store : GameStore) : List Game → List Settlement → Prop
  | nil : Planned now store [] []
  | skip {game : Game} {games : List Game} {planned : List Settlement} (open_ : plan now store game = .ok none)
      (rest : Planned now store games planned) : Planned now store (game :: games) planned
  | due {game : Game} {games : List Game} {s : Settlement} {planned : List Settlement}
      (closes : plan now store game = .ok (some s)) (rest : Planned now store games planned) :
      Planned now store (game :: games) (s :: planned)

lemma Planned.sublist {games : List Game} {planned : List Settlement} (h : Planned now store games planned) :
    (planned.map (·.game)).Sublist (games.map (·.id)) := by
  induction h with
  | nil => exact .slnil
  | skip _ _ ih => exact ih.cons _
  | due closes _ ih =>
    rw [List.map_cons, List.map_cons, plan_game closes]
    exact ih.cons_cons _

lemma sweepStep_eq (done : GameStore × List Settlement) (game : Game) :
    sweepStep now store done game =
      match plan now store game with
      | .error e => .error e
      | .ok none => .ok done
      | .ok (some s) => .ok (done.1.removeGame game.id, done.2 ++ [s]) := by
  simp only [sweepStep]
  cases plan now store game with
  | error e => rfl
  | ok due => cases due <;> rfl

lemma sweepSteps_eq_ok {games : List Game} {left next : GameStore} {done all : List Settlement}
    (h : games.foldlM (sweepStep now store) (left, done) = .ok (next, all)) :
    ∃ planned, Planned now store games planned ∧ all = done ++ planned ∧
      next = left.without (planned.map (·.game)) := by
  induction games generalizing left done with
  | nil =>
    obtain ⟨rfl, rfl⟩ := Prod.mk.inj (Except.ok.inj h)
    exact ⟨[], .nil, (List.append_nil _).symm, (GameStore.without_nil _).symm⟩
  | cons game rest ih =>
    rw [List.foldlM_cons, sweepStep_eq] at h
    cases hplan : plan now store game with
    | error e =>
      rw [hplan] at h
      cases h
    | ok due =>
      cases due with
      | none =>
        rw [hplan] at h
        obtain ⟨planned, hplanned, hall, hnext⟩ := ih h
        exact ⟨planned, .skip hplan hplanned, hall, hnext⟩
      | some s =>
        rw [hplan] at h
        obtain ⟨planned, hplanned, hall, hnext⟩ := ih h
        refine ⟨s :: planned, .due hplan hplanned, ?_, ?_⟩
        · rw [hall, List.append_assoc, List.singleton_append]
        · rw [hnext, GameStore.removeGame_eq_without, GameStore.without_without, List.singleton_append,
            List.map_cons, plan_game hplan]

lemma sweep_eq_ok {next : GameStore} {planned : List Settlement} (h : sweep now store = .ok (next, planned)) :
    Planned now store store.games.values planned ∧ next = store.without (planned.map (·.game)) := by
  obtain ⟨planned', hplanned, hall, hnext⟩ := sweepSteps_eq_ok h
  rw [List.nil_append] at hall
  rw [hall]
  exact ⟨hplanned, hnext⟩

variable [Bank β]

/-- The answers of a bank to batches offered in order; a refused batch leaves the bank as it was. -/
def offers : β → List Settlement → List (Settlement × Option LedgerError)
  | _, [] => []
  | bank, s :: rest =>
    match Bank.payOut bank s.payouts with
    | .ok next => (s, none) :: offers next rest
    | .error e => (s, some e) :: offers bank rest

def bankAfter : β → List Settlement → β
  | bank, [] => bank
  | bank, s :: rest =>
    match Bank.payOut bank s.payouts with
    | .ok next => bankAfter next rest
    | .error _ => bankAfter bank rest

def accepted (bank : β) (planned : List Settlement) : List Settlement :=
  ((offers bank planned).filter (·.2 = none)).map (·.1)

def rejected (bank : β) (planned : List Settlement) : List Settlement :=
  ((offers bank planned).filter (·.2 ≠ none)).map (·.1)

lemma offers_fst (bank : β) (planned : List Settlement) : (offers bank planned).map (·.1) = planned := by
  induction planned generalizing bank with
  | nil => rfl
  | cons s rest ih =>
    rw [offers]
    cases Bank.payOut bank s.payouts with
    | ok next => exact congrArg (s :: ·) (ih next)
    | error e => exact congrArg (s :: ·) (ih bank)

lemma filter_offers_sublist (bank : β) (planned : List Settlement) (p : Settlement × Option LedgerError → Bool) :
    (((offers bank planned).filter p).map (·.1)).Sublist planned := by
  have h : (((offers bank planned).filter p).map (·.1)).Sublist ((offers bank planned).map (·.1)) :=
    List.filter_sublist.map _
  rwa [offers_fst] at h

section Offer

variable {bank next : β} {s : Settlement} (rest : List Settlement)

lemma accepted_of_ok (h : Bank.payOut bank s.payouts = .ok next) :
    accepted bank (s :: rest) = s :: accepted next rest := by
  simp [accepted, offers, h]

lemma accepted_of_error {e : LedgerError} (h : Bank.payOut bank s.payouts = .error e) :
    accepted bank (s :: rest) = accepted bank rest := by
  simp [accepted, offers, h]

lemma rejected_of_ok (h : Bank.payOut bank s.payouts = .ok next) :
    rejected bank (s :: rest) = rejected next rest := by
  simp [rejected, offers, h]

lemma rejected_of_error {e : LedgerError} (h : Bank.payOut bank s.payouts = .error e) :
    rejected bank (s :: rest) = s :: rejected bank rest := by
  simp [rejected, offers, h]

lemma bankAfter_of_ok (h : Bank.payOut bank s.payouts = .ok next) :
    bankAfter bank (s :: rest) = bankAfter next rest := by
  rw [bankAfter, h]

lemma bankAfter_of_error {e : LedgerError} (h : Bank.payOut bank s.payouts = .error e) :
    bankAfter bank (s :: rest) = bankAfter bank rest := by
  rw [bankAfter, h]

end Offer

end Settlement

namespace Transaction

variable [Bank β]

def settlePlanned : List Settlement → SweepReport → Ledger κ β → EStateM.Result GameError (Ledger κ β) SweepReport
  | [], report, ledger => .ok report ledger
  | s :: rest, report, ledger =>
    match Bank.payOut ledger.bank s.payouts with
    | .ok bank => settlePlanned rest (report.settle s)
      (Ledger.withStore { ledger with bank := bank } (ledger.keeper.store.removeGame s.game))
    | .error e =>
      match ledger.keeper.policy with
      | .failFast => .error (.settlement s.game e) ledger
      | .deferFailed => settlePlanned rest (report.defer s.game) ledger

lemma settleGames_eq_settlePlanned {games : List Game} {planned : List Settlement}
    (h : Settlement.Planned now store games planned) (hgames : ∀ g ∈ games, store.game? g.id = some g)
    (hnodup : (games.map (·.id)).Nodup) {ids : List GameId} (hids : ∀ g ∈ games, g.id ∉ ids) (report : SweepReport)
    {ledger : Ledger κ β} (hstore : ledger.keeper.store = store.without ids) :
    settleGames now (games.map (·.id)) report ledger = settlePlanned planned report ledger := by
  -- Of a game that is not among the settled ones, the ledger has the same record and the same plan.
  have hsame : ∀ {l : Ledger κ β} {gone g}, l.keeper.store = store.without gone → store.game? g.id = some g →
      g.id ∉ gone → l.keeper.store.game? g.id = some g ∧
        Settlement.plan now l.keeper.store g = Settlement.plan now store g := by
    intro l gone g hl hg hid
    rw [hl, GameStore.game?_without, if_neg hid, Settlement.plan_without hid]
    exact ⟨hg, rfl⟩
  induction h generalizing ids report ledger with
  | nil => rfl
  | @skip game games planned hplan _ ih =>
    obtain ⟨hgame, hrest⟩ := List.forall_mem_cons.mp hgames
    obtain ⟨hid, hrestids⟩ := List.forall_mem_cons.mp hids
    obtain ⟨hgame', hplan'⟩ := hsame hstore hgame hid
    rw [List.map_cons, settleGames_cons, settleGame_of_open hgame' (hplan'.trans hplan)]
    exact ih hrest (List.nodup_cons.mp hnodup).2 hrestids report hstore
  | @due game games s planned hplan _ ih =>
    obtain ⟨hgame, hrest⟩ := List.forall_mem_cons.mp hgames
    obtain ⟨hid, hrestids⟩ := List.forall_mem_cons.mp hids
    obtain ⟨hnew, hnodup⟩ := List.nodup_cons.mp hnodup
    obtain ⟨hgame', hplan'⟩ := hsame hstore hgame hid
    rw [List.map_cons, settleGames_cons, settlePlanned, Settlement.plan_game hplan]
    cases hpay : Bank.payOut ledger.bank s.payouts with
    | error e =>
      rw [settleGame_of_refused hgame' (hplan'.trans hplan) hpay]
      cases ledger.keeper.policy with
      | failFast => rfl
      | deferFailed => exact ih hrest hnodup hrestids _ hstore
    | ok bank =>
      have hkept : ∀ g ∈ games, g.id ∉ ids ++ [game.id] := by
        intro g hg hmem
        rcases List.mem_append.mp hmem with hmem | hmem
        · exact hrestids g hg hmem
        · exact hnew (List.mem_map.mpr ⟨g, hg, List.mem_singleton.mp hmem⟩)
      have hleft : ledger.keeper.store.removeGame game.id = store.without (ids ++ [game.id]) := by
        rw [hstore, GameStore.removeGame_eq_without, GameStore.without_without]
      rw [settleGame_of_paid hgame' (hplan'.trans hplan) hpay]
      exact ih hrest hnodup hkept _ hleft

lemma settlePlanned_append {before rest : List Settlement} {report : SweepReport} {ledger : Ledger κ β} {bank : β}
    (paid : before.foldlM (fun bank s => Bank.payOut bank s.payouts) ledger.bank = .ok bank) :
    settlePlanned (before ++ rest) report ledger =
      settlePlanned rest { report with settled := report.settled ++ before }
        (Ledger.withStore { ledger with bank := bank } (ledger.keeper.store.without (before.map (·.game)))) := by
  induction before generalizing report ledger with
  | nil =>
    obtain rfl := Except.ok.inj paid
    simp [Ledger.withStore]
  | cons s before ih =>
    rw [List.foldlM_cons, bind_eq_ok_iff] at paid
    obtain ⟨middle, hmiddle, paid⟩ := paid
    rw [List.cons_append, settlePlanned, hmiddle]
    simp only
    rw [ih paid]
    simp only [Ledger.withStore, SweepReport.settle, GameStore.removeGame_eq_without, GameStore.without_without,
      List.append_assoc, List.singleton_append, List.map_cons]

lemma settlePlanned_defer (planned : List Settlement) (report : SweepReport) {ledger : Ledger κ β}
    (hpolicy : ledger.keeper.policy = .deferFailed) :
    settlePlanned planned report ledger =
      .ok ⟨report.height, report.settled ++ Settlement.accepted ledger.bank planned,
          report.deferred ++ (Settlement.rejected ledger.bank planned).map (·.game)⟩
        (Ledger.withStore { ledger with bank := Settlement.bankAfter ledger.bank planned }
          (ledger.keeper.store.without ((Settlement.accepted ledger.bank planned).map (·.game)))) := by
  induction planned generalizing report ledger with
  | nil => simp [settlePlanned, Settlement.accepted, Settlement.rejected, Settlement.offers, Settlement.bankAfter,
      Ledger.withStore]
  | cons s rest ih =>
    rw [settlePlanned]
    cases hpay : Bank.payOut ledger.bank s.payouts with
    | ok bank =>
      have hnext : (Ledger.withStore { ledger with bank := bank }
        (ledger.keeper.store.removeGame s.game)).keeper.policy = .deferFailed := hpolicy
      simp only
      rw [ih _ hnext, Settlement.accepted_of_ok rest hpay, Settlement.rejected_of_ok rest hpay,
        Settlement.bankAfter_of_ok rest hpay]
      simp only [Ledger.withStore, SweepReport.settle, GameStore.removeGame_eq_without, GameStore.without_without,
        List.append_assoc, List.singleton_append, List.map_cons]
    | error e =>
      simp only [hpolicy]
      rw [ih _ hpolicy, Settlement.accepted_of_error rest hpay, Settlement.rejected_of_error rest hpay,
        Settlement.bankAfter_of_error rest hpay]
      simp only [SweepReport.defer, List.append_assoc, List.singleton_append, List.map_cons]

end Transaction

end Roshambo
