import Roshambo.Proofs.Acceptance
import Roshambo.Proofs.Chronology

namespace Roshambo

variable {κ β : Type}

def Instant.PastRange (now : Instant) (window : UInt64) : Prop := ∀ t : Instant, t.seconds < now.seconds + window.toNat

def Params.window (params : Params) : Window → UInt64
  | .commit => params.commitWindow
  | .reveal => params.revealWindow

def Game.deadline? (game : Game) : Window → Option Instant
  | .commit => some game.commitDeadline
  | .reveal => game.revealDeadline

namespace Keeper

variable {now closing : Instant} {window : UInt64} {what : String} {e : GameError}

lemma duration_eq_error_iff : duration window = .error e ↔
    Params.maxSeconds < window.toNat ∧ e = .overflow s!"window of {window.toNat} seconds" := by
  rcases Nat.lt_or_ge Params.maxSeconds window.toNat with h | h
  · simp [duration_of_lt h, h, eq_comm]
  · simp [duration_of_le h, Nat.not_lt.mpr h]

lemma deadline_eq_error_iff (hfits : window.toNat ≤ Params.maxSeconds) (hpos : window ≠ 0) :
    deadline now window what = .error e ↔ now.PastRange window ∧ e = .overflow what := by
  have hpos : window.toNat ≠ 0 := fun hzero => hpos (UInt64.toNat_inj.mp hzero)
  rw [deadline, duration_of_le hfits, ok_bind, Instant.PastRange, ← Instant.add?_eq_none_iff hpos]
  cases now.add? window.toNat <;> simp [eq_comm, throw, throwThe, MonadExceptOf.throw, pure, Except.pure]

end Keeper

lemma Params.validate_iff_durations {params : Params} : params.validate = .ok () ↔
    ∀ w, params.window w ≠ 0 ∧ ∃ seconds, Keeper.duration (params.window w) = .ok seconds := by
  have hwindow : ∀ window : UInt64, (window ≠ 0 ∧ ∃ seconds, Keeper.duration window = .ok seconds) ↔
      1 ≤ window.toNat ∧ window.toNat ≤ maxSeconds := by
    intro window
    simp only [Keeper.duration_eq_ok_iff, exists_and_left, exists_eq, and_true, Ne, ne_zero_iff]
  rw [validate_eq_ok_iff]
  simp only [hwindow]
  constructor
  · rintro ⟨hcommit, hreveal⟩ w
    cases w with
    | commit => exact hcommit
    | reveal => exact hreveal
  · intro h
    exact ⟨h .commit, h .reveal⟩

def GameError.IsWindowOverflow (e : GameError) : Prop := ∃ window, Keeper.duration window = .error e

namespace GameError

lemma not_isWindowOverflow {what : String} (h : what.toList.head? ≠ some 'w') :
    ¬ (overflow what).IsWindowOverflow := by
  rintro ⟨window, hwindow⟩
  obtain ⟨_, hwhat⟩ := Keeper.duration_eq_error_iff.mp hwindow
  rw [overflow.inj hwhat, String.toList_append, String.toList_append] at h
  exact h rfl

lemma not_isWindowOverflow_of_ne {e : GameError} (h : ∀ what, e ≠ overflow what) : ¬ e.IsWindowOverflow := by
  rintro ⟨window, hwindow⟩
  exact h _ (Keeper.duration_eq_error_iff.mp hwindow).2

end GameError

namespace Keeper

variable [AddressCodec κ] {keeper : Keeper κ} {now : Instant} {player : String} {fee : Amount} {e : GameError}

lemma resolve_eq_error (h : keeper.resolve player = .error e) : ∃ detail, e = .invalidAddress detail := by
  rw [resolve] at h
  cases hdecode : AddressCodec.decode keeper.codec player with
  | ok address =>
    rw [hdecode] at h
    cases h
  | error cause =>
    rw [hdecode] at h
    exact ⟨cause.message, (Except.error.inj h).symm⟩

lemma admitStart_eq_error (h : keeper.admitStart now player fee = .error e) :
    e = .invalidStake ∨ (∃ detail, e = .invalidAddress detail) ∨
      deadline now keeper.params.commitWindow "commit deadline" = .error e ∨
      e = .overflow "prize for entry fee" ∨ e = .overflow "game id sequence exhausted" := by
  simp only [admitStart, throw_bind, guard_eq_error_iff, bind_eq_error_iff] at h
  rcases h with ⟨_, rfl⟩ | ⟨_, haddress | ⟨_, _, hclosing | ⟨_, _, ⟨_, rfl⟩ | ⟨_, ⟨_, rfl⟩ | ⟨_, hdone⟩⟩⟩⟩⟩
  · exact Or.inl rfl
  · exact Or.inr (Or.inl (resolve_eq_error haddress))
  · exact Or.inr (Or.inr (Or.inl hclosing))
  · exact Or.inr (Or.inr (Or.inr (Or.inl rfl)))
  · exact Or.inr (Or.inr (Or.inr (Or.inr rfl)))
  · cases hdone

lemma admitReveal_ne_overflow {id : GameId} {label salt what : String} :
    keeper.admitReveal now id player label salt ≠ .error (.overflow what) := by
  intro h
  -- the checks in their order: the player, the move, the game with its window, the commit, and the rest
  simp only [admitReveal, throw_bind, bind_eq_error_iff] at h
  rcases h with haddress | ⟨_, _, h⟩
  · obtain ⟨_, h⟩ := resolve_eq_error haddress
    cases h
  split at h
  · simp only [bind_eq_error_iff, guard_eq_error_iff] at h
    rcases h with hgame | ⟨_, _, ⟨_, h⟩ | ⟨_, h⟩⟩
    · rw [findGame] at hgame
      split at hgame <;> cases hgame
    · cases h
    · split at h
      · simp only [guard_eq_error_iff] at h
        rcases h with ⟨_, h⟩ | ⟨_, ⟨_, h⟩ | ⟨_, ⟨_, h⟩ | ⟨_, h⟩⟩⟩ <;> cases h
      · cases h
  · cases h

section Valid

variable (valid : keeper.params.validate = .ok ())

include valid

omit [AddressCodec κ] in
lemma deadline_of_window {what : String} (w : Window) :
    deadline now (keeper.params.window w) what = .error e ↔
      now.PastRange (keeper.params.window w) ∧ e = .overflow what := by
  obtain ⟨hpos, _, hduration⟩ := Params.validate_iff_durations.mp valid w
  exact deadline_eq_error_iff (duration_eq_ok_iff.mp hduration).1 hpos

lemma admitStart_fits (h : keeper.admitStart now player fee = .error e) :
    ¬ e.IsWindowOverflow ∧ (e = .overflow "commit deadline" → now.PastRange keeper.params.commitWindow) := by
  rcases admitStart_eq_error h with rfl | ⟨detail, rfl⟩ | hclosing | rfl | rfl
  · exact ⟨GameError.not_isWindowOverflow_of_ne nofun, nofun⟩
  · exact ⟨GameError.not_isWindowOverflow_of_ne nofun, nofun⟩
  · obtain ⟨hpast, rfl⟩ := (deadline_of_window valid .commit).mp hclosing
    exact ⟨GameError.not_isWindowOverflow (by decide), fun _ => hpast⟩
  · exact ⟨GameError.not_isWindowOverflow (by decide), fun hwhat => absurd hwhat (by decide)⟩
  · exact ⟨GameError.not_isWindowOverflow (by decide), fun hwhat => absurd hwhat (by decide)⟩

end Valid

end Keeper

namespace Transaction

variable [AddressCodec κ] {ledger : Ledger κ β} {block : Block} {e : GameError}
  (valid : ledger.keeper.params.validate = .ok ())

include valid

lemma startGame_fits [Bank β] {player : String} {commitment : Commitment} {fee : Amount}
    (h : (startGame block player commitment fee).answer ledger = .error e) :
    (∃ creator cause, Bank.deposit ledger.bank creator fee = .error cause ∧ e = .ofLedger cause) ∨
      ¬ e.IsWindowOverflow ∧
        (e = .overflow "commit deadline" → block.time.PastRange ledger.keeper.params.commitWindow) := by
  rw [answer, startGame_eq] at h
  cases admitted : ledger.keeper.admitStart block.time player fee with
  | error e' =>
    simp only [admitted] at h
    cases h
    exact Or.inr (Keeper.admitStart_fits valid admitted)
  | ok entry =>
    obtain ⟨creator, closing⟩ := entry
    cases staked : Bank.deposit ledger.bank creator fee with
    | error cause =>
      simp only [admitted, staked] at h
      cases h
      exact Or.inl ⟨creator, cause, staked, rfl⟩
    | ok bank =>
      simp only [admitted, staked] at h
      cases h

lemma revealMove_fits {id : GameId} {player label salt : String}
    (h : (revealMove block id player label salt).answer ledger = .error e) :
    ¬ e.IsWindowOverflow ∧
      (e = .overflow "reveal deadline" → block.time.PastRange ledger.keeper.params.revealWindow) := by
  rw [answer, revealMove_eq] at h
  cases admitted : ledger.keeper.admitReveal block.time id player label salt with
  | error e' =>
    simp only [admitted] at h
    cases h
    have hne : ∀ what, e ≠ .overflow what := fun what hwhat => Keeper.admitReveal_ne_overflow (hwhat ▸ admitted)
    exact ⟨GameError.not_isWindowOverflow_of_ne hne, fun hwhat => absurd hwhat (hne _)⟩
  | ok entry =>
    obtain ⟨player', move, game⟩ := entry
    cases set : game.revealDeadline with
    | some closing =>
      simp only [admitted, set] at h
      cases h
    | none =>
      cases closes : Keeper.deadline block.time ledger.keeper.params.revealWindow "reveal deadline" with
      | error e' =>
        simp only [admitted, set, closes] at h
        cases h
        obtain ⟨hpast, rfl⟩ := (Keeper.deadline_of_window valid .reveal).mp closes
        exact ⟨GameError.not_isWindowOverflow (by decide), fun _ => hpast⟩
      | ok closing =>
        simp only [admitted, set, closes] at h
        cases h

end Transaction

lemma Accounts.deposit_eq_error {accounts : Accounts} {payer : Address} {amount : Amount} {cause : LedgerError}
    (h : accounts.deposit payer amount = .error cause) :
    cause = .insufficientFunds payer.hex amount (accounts.balance payer) ∨ cause = .overflow "module pool balance" := by
  simp only [deposit] at h
  split at h
  · simp only [bind_eq_error_iff, orOverflow_eq_error_iff] at h
    rcases h with ⟨_, hcause⟩ | ⟨_, _, hdone⟩
    · exact Or.inr hcause
    · cases hdone
  · cases h
    exact Or.inl rfl

lemma Accounts.deposit_fits {accounts : Accounts} {payer : Address} {amount : Amount} {cause : LedgerError}
    (h : accounts.deposit payer amount = .error cause) :
    ¬ (GameError.ofLedger cause).IsWindowOverflow ∧ GameError.ofLedger cause ≠ .overflow "commit deadline" := by
  rcases deposit_eq_error h with rfl | rfl
  · exact ⟨GameError.not_isWindowOverflow_of_ne nofun, nofun⟩
  · exact ⟨GameError.not_isWindowOverflow (by decide), by decide⟩

variable [AddressCodec κ] [Bank β] {keeper : Keeper κ} {turn : Turn β} {store : GameStore} {id : GameId} {game : Game}
  {closing : Instant}

lemma Turn.Effect.deadline (effect : turn.Effect keeper store) (h : keeper.store.WellFormed keeper.codec)
    (stored : store.game? id = some game) {w : Window} (set : game.deadline? w = some closing) :
    (∃ before, keeper.store.game? id = some before ∧ before.deadline? w = some closing) ∨
      ∃ now what, turn.call.time? = some now ∧
        Keeper.deadline now (keeper.params.window w) what = .ok closing := by
  cases effect with
  | quiet _ _ => exact Or.inl ⟨game, stored, set⟩
  | @start block _ _ _ _ closing' call admitted _ =>
    obtain ⟨_, _, closes, _⟩ := Keeper.admitStart_eq_ok_iff.mp admitted
    rw [GameStore.game?_start] at stored
    split at stored
    · obtain rfl := Option.some.inj stored
      cases w with
      | commit =>
        obtain rfl : closing' = closing := Option.some.inj set
        exact Or.inr ⟨block.time, _, call ▸ rfl, closes⟩
      | reveal => cases set
    · exact Or.inl ⟨game, stored, set⟩
  | join _ _ => exact Or.inl ⟨game, stored, set⟩
  | @firstReveal block opened _ _ _ _ _ shown closing' call admitted unset closes =>
    obtain ⟨_, _, hshown, _⟩ := Keeper.admitReveal_eq_ok_iff.mp admitted
    rw [GameStore.game?_setReveal, GameStore.game?_setGame] at stored
    split at stored
    · rename_i hid
      obtain rfl := Option.some.inj stored
      cases w with
      | commit =>
        refine Or.inl ⟨shown, ?_, set⟩
        rw [hid]
        exact (h.ownId hshown).symm ▸ hshown
      | reveal =>
        obtain rfl : closing' = closing := Option.some.inj set
        exact Or.inr ⟨block.time, _, call ▸ rfl, closes⟩
    · exact Or.inl ⟨game, stored, set⟩
  | reveal _ _ _ => exact Or.inl ⟨game, stored, set⟩
  | round _ =>
    rw [GameStore.game?_without] at stored
    split at stored
    · cases stored
    · exact Or.inl ⟨game, stored, set⟩

structure Keeper.WindowsFit (keeper : Keeper κ) : Prop where
  refused_iff : ∀ (w : Window) (now : Instant) (what : String) (e : GameError),
    deadline now (keeper.params.window w) what = .error e ↔
      now.PastRange (keeper.params.window w) ∧ e = .overflow what
  start : ∀ {β : Type} [Bank β] (bank : β) (block : Block) (player : String) (commitment : Commitment) (fee : Amount)
    (e : GameError), (Transaction.startGame block player commitment fee).answer ⟨keeper, bank⟩ = .error e →
      (∃ creator cause, Bank.deposit bank creator fee = .error cause ∧ e = .ofLedger cause) ∨
        ¬ e.IsWindowOverflow ∧ (e = .overflow "commit deadline" → block.time.PastRange keeper.params.commitWindow)
  startOfAccounts : ∀ (bank : Accounts) (block : Block) (player : String) (commitment : Commitment) (fee : Amount)
    (e : GameError), (Transaction.startGame block player commitment fee).answer ⟨keeper, bank⟩ = .error e →
      ¬ e.IsWindowOverflow ∧ (e = .overflow "commit deadline" → block.time.PastRange keeper.params.commitWindow)
  reveal : ∀ {β : Type} (bank : β) (block : Block) (id : GameId) (player label salt : String) (e : GameError),
    (Transaction.revealMove block id player label salt).answer ⟨keeper, bank⟩ = .error e →
      ¬ e.IsWindowOverflow ∧ (e = .overflow "reveal deadline" → block.time.PastRange keeper.params.revealWindow)
  set : ∀ {β : Type} [Bank β] (bank : β) (call : Call) (id : GameId) (game : Game) (w : Window) (closing : Instant),
    (call.apply ⟨keeper, bank⟩).keeper.store.game? id = some game → game.deadline? w = some closing →
      (∃ before, keeper.store.game? id = some before ∧ before.deadline? w = some closing) ∨
        ∃ now, call.time? = some now ∧ closing.seconds = now.seconds + (keeper.params.window w).toNat ∧ now < closing

/-- Params are valid when both windows are positive and durations, and a window is a duration below `2 ^ 63`
milliseconds. So the windows of every reachable keeper fit. -/
theorem Keeper.windows_never_overflow :
    (∀ params : Params, params.validate = .ok () ↔
      ∀ w, params.window w ≠ 0 ∧ ∃ seconds, duration (params.window w) = .ok seconds) ∧
    (∀ (window : UInt64) (seconds : Nat),
      duration window = .ok seconds ↔ 1000 * window.toNat < 2 ^ 63 ∧ seconds = window.toNat) ∧
    ∀ {κ : Type} [AddressCodec κ] {keeper : Keeper κ}, keeper.Reachable → keeper.WindowsFit := by
  refine ⟨fun _ => Params.validate_iff_durations, fun window seconds => ?_, fun {κ} _ keeper reachable => ?_⟩
  · rw [duration_eq_ok_iff, Params.maxSeconds]
    exact and_congr_left fun _ => by omega
  · have valid := reachable.params_valid
    refine
      { refused_iff := fun w now what e => deadline_of_window valid w
        start := fun bank block player commitment fee e => Transaction.startGame_fits valid
        startOfAccounts := fun bank block player commitment fee e h => ?accounts
        reveal := fun bank block id player label salt e => Transaction.revealMove_fits valid
        set := fun {β} _ bank call id game w closing stored set => ?set }
    case accounts =>
      rcases Transaction.startGame_fits valid h with ⟨creator, cause, refused, rfl⟩ | fits
      · obtain ⟨hwindow, hwhat⟩ := Accounts.deposit_fits refused
        exact ⟨hwindow, fun h => absurd h hwhat⟩
      · exact fits
    case set =>
      have effect : Turn.Effect ⟨call, bank⟩ keeper (call.apply ⟨keeper, bank⟩).keeper.store :=
        Turn.effect fun _ _ => reachable.wellFormed.ownId
      rcases effect.deadline reachable.wellFormed stored set with hbefore | ⟨now, what, htime, closes⟩
      · exact Or.inl hbefore
      · have hpos := (Params.validate_iff_durations.mp valid w).1
        have hseconds : (keeper.params.window w).toNat ≠ 0 := fun hzero => hpos (UInt64.toNat_inj.mp hzero)
        have hsum := (Instant.add?_eq_some_iff hseconds).mp (deadline_eq_ok_iff.mp closes).2
        exact Or.inr ⟨now, htime, hsum.1, lt_deadline closes hpos⟩

def Sample.lastMinute : Instant := ⟨8210266876740, 0, by decide, by decide⟩

theorem Keeper.windows_never_overflow_late :
    (Transaction.startGame ⟨1, Sample.lastMinute⟩ "rps1qvdrtkhs" ⟨"z"⟩ ⟨5⟩).answer Sample.opening =
        .error (.overflow "commit deadline") ∧
      Sample.lastMinute.PastRange Sample.fresh.params.commitWindow ∧
      ∃ closing, ((Call.startGame ⟨1, .epoch⟩ "rps1qvdrtkhs" ⟨"z"⟩ ⟨5⟩).apply Sample.opening).keeper.store.game? 0 =
          some ⟨0, ⟨5⟩, closing, none⟩ ∧
        closing.seconds = 60 ∧ Instant.epoch < closing := by
  have fits := windows_never_overflow.2.2 (.new Sample.new_fresh)
  have refused : (Transaction.startGame ⟨1, Sample.lastMinute⟩ "rps1qvdrtkhs" ⟨"z"⟩ ⟨5⟩).answer Sample.opening =
      .error (.overflow "commit deadline") := by
    decide +kernel
  have stored : ((Call.startGame ⟨1, .epoch⟩ "rps1qvdrtkhs" ⟨"z"⟩ ⟨5⟩).apply Sample.opening).keeper.store.game? 0 =
      some ⟨0, ⟨5⟩, Sample.second 60 (by decide), none⟩ := by
    decide +kernel
  refine ⟨refused, (fits.startOfAccounts _ _ _ _ _ _ refused).2 rfl, _, stored, ?_⟩
  rcases fits.set _ _ _ _ .commit _ stored rfl with ⟨before, hbefore, _⟩ | ⟨now, htime, hseconds, hlt⟩
  · cases hbefore
  · obtain rfl := Option.some.inj htime
    exact ⟨hseconds, hlt⟩

end Roshambo
