import Roshambo.Proofs.Reachability
import Roshambo.Proofs.Stakes

/-! What the pool holds beyond the stakes changes by the credits to the pool alone. -/

namespace Roshambo

inductive Event
  | call (call : Call)
  | mint (recipient : Address) (amount : Amount)
  | mintPool (amount : Amount)
  deriving DecidableEq

variable {κ : Type}

namespace Event

def minted (event : Event) (ledger : Ledger κ Accounts) : Nat :=
  match event with
  | mintPool amount =>
    match ledger.bank.mintPool amount with
    | .ok _ => amount.toNat
    | .error _ => 0
  | _ => 0

variable [AddressCodec κ]

def apply (event : Event) (ledger : Ledger κ Accounts) : Ledger κ Accounts :=
  match event with
  | call c => c.apply ledger
  | mint recipient amount =>
    match ledger.bank.mint recipient amount with
    | .ok bank => { ledger with bank := bank }
    | .error _ => ledger
  | mintPool amount =>
    match ledger.bank.mintPool amount with
    | .ok bank => { ledger with bank := bank }
    | .error _ => ledger

lemma apply_wellFormed (event : Event) {ledger : Ledger κ Accounts}
    (h : ledger.keeper.store.WellFormed ledger.keeper.codec) :
    (event.apply ledger).keeper.store.WellFormed (event.apply ledger).keeper.codec := by
  cases event with
  | call c => exact (c.apply_steps ledger).wellFormed h
  | mint recipient amount =>
    simp only [apply]
    split <;> exact h
  | mintPool amount =>
    simp only [apply]
    split <;> exact h

lemma apply_pool_balance (event : Event) {ledger : Ledger κ Accounts}
    (h : ledger.keeper.store.WellFormed ledger.keeper.codec) :
    (event.apply ledger).bank.pool.toNat + ledger.keeper.store.stakes =
      ledger.bank.pool.toNat + (event.apply ledger).keeper.store.stakes + event.minted ledger := by
  cases event with
  | call c => exact (c.apply_steps ledger).pool_balance h
  | mint recipient amount =>
    simp only [apply, minted]
    split
    · rename_i bank hbank
      rw [Accounts.mint_pool hbank]
      rfl
    · rfl
  | mintPool amount =>
    simp only [apply, minted]
    cases hbank : ledger.bank.mintPool amount with
    | error e => rfl
    | ok bank =>
      obtain ⟨hpool, _⟩ := Accounts.mintPool_eq_ok_iff.mp hbank
      simp only [hpool]
      omega

end Event

namespace Ledger

variable [AddressCodec κ]

def run : List Event → Ledger κ Accounts → Ledger κ Accounts
  | [], ledger => ledger
  | event :: rest, ledger => run rest (event.apply ledger)

def minted : List Event → Ledger κ Accounts → Nat
  | [], _ => 0
  | event :: rest, ledger => event.minted ledger + minted rest (event.apply ledger)

lemma run_wellFormed (events : List Event) {ledger : Ledger κ Accounts}
    (h : ledger.keeper.store.WellFormed ledger.keeper.codec) :
    (run events ledger).keeper.store.WellFormed (run events ledger).keeper.codec := by
  induction events generalizing ledger with
  | nil => exact h
  | cons event rest ih => exact ih (event.apply_wellFormed h)

lemma run_pool_balance (events : List Event) {ledger : Ledger κ Accounts}
    (h : ledger.keeper.store.WellFormed ledger.keeper.codec) :
    (run events ledger).bank.pool.toNat + ledger.keeper.store.stakes =
      ledger.bank.pool.toNat + (run events ledger).keeper.store.stakes + minted events ledger := by
  induction events generalizing ledger with
  | nil => rfl
  | cons event rest ih =>
    have hevent := event.apply_pool_balance h
    have hrest := ih (event.apply_wellFormed h)
    simp only [run, minted]
    omega

lemma minted_eq_zero {events : List Event} (h : ∀ amount, .mintPool amount ∉ events) (ledger : Ledger κ Accounts) :
    minted events ledger = 0 := by
  induction events generalizing ledger with
  | nil => rfl
  | cons event rest ih =>
    have hevent : event.minted ledger = 0 := by
      cases event with
      | call c => rfl
      | mint recipient amount => rfl
      | mintPool amount => exact (h amount List.mem_cons_self).elim
    rw [minted, hevent, ih fun amount hm => h amount (List.mem_cons_of_mem _ hm)]

/-- From a new or imported state whose pool covers its stakes, the stakes stay known and covered at every point of a
run, with the same surplus but for the credits to the pool; from nothing, the pool is the stakes. -/
theorem run_solvent :
    (∀ {κ : Type} [AddressCodec κ] {ledger : Ledger κ Accounts} {stakes : Amount}, ledger.keeper.Started →
      ledger.keeper.outstandingStakes = .ok stakes → stakes ≤ ledger.bank.pool → ∀ events : List Event,
        ∃ stakes', (run events ledger).keeper.outstandingStakes = .ok stakes' ∧
          stakes' ≤ (run events ledger).bank.pool ∧
          (run events ledger).bank.pool.toNat - stakes'.toNat =
            ledger.bank.pool.toNat - stakes.toNat + minted events ledger) ∧
      ∀ {κ : Type} [AddressCodec κ] {codec : κ} {authority : String} {config : GameConfig} {ledger : Ledger κ Accounts},
        Keeper.new codec authority config = .ok ledger.keeper → ledger.bank.pool = .zero →
          ∀ events : List Event, (∀ amount, .mintPool amount ∉ events) →
            (run events ledger).keeper.outstandingStakes = .ok (run events ledger).bank.pool ∧
              (run events ledger).bank.pool.toNat = (run events ledger).keeper.store.stakes := by
  constructor
  · intro κ _ ledger stakes started hstakes hcovered events
    obtain ⟨_, htotal⟩ := Keeper.outstandingStakes_eq_ok_iff.mp hstakes
    have hbalance := run_pool_balance events started.wellFormed
    rw [Amount.le_iff, htotal] at hcovered
    have hlt := (run events ledger).bank.pool.toNat_lt
    have hfits : (run events ledger).keeper.store.stakes < UInt64.size := by omega
    obtain ⟨stakes', hstakes'⟩ := Amount.exists_toNat hfits
    refine ⟨stakes', (run_wellFormed events started.wellFormed).outstandingStakes hstakes', ?_, ?_⟩
    · rw [Amount.le_iff]
      omega
    · omega
  · intro κ _ codec authority config ledger created hpool events hnone
    have hfresh : ledger.keeper.store = .empty := by
      rw [(Keeper.new_eq_ok created).2]
    have hwell := Keeper.new_wellFormed created
    have hbalance := run_pool_balance events hwell
    rw [minted_eq_zero hnone, hfresh, hpool, GameStore.stakes_empty, Amount.toNat_zero] at hbalance
    have hstakes : (run events ledger).bank.pool.toNat = (run events ledger).keeper.store.stakes := by omega
    exact ⟨(run_wellFormed events hwell).outstandingStakes hstakes, hstakes⟩

end Ledger

namespace Sample

def ledger : Ledger Bech32Codec Accounts := ⟨loaded, ⟨"rps", ⟨10⟩, (∅ : SortedMap Address Amount).insert ⟨[3]⟩ ⟨7⟩⟩⟩

def opening : Ledger Bech32Codec Accounts := ⟨fresh, { ledger.bank with pool := .zero }⟩

def events : List Event :=
  [.mintPool ⟨3⟩, .call (.startGame ⟨1, .epoch⟩ "rps1qvdrtkhs" ⟨"z"⟩ ⟨5⟩), .call (.endRound ⟨1, .epoch⟩)]

lemma outstandingStakes_ledger : ledger.keeper.outstandingStakes = .ok ledger.bank.pool := by decide +kernel

end Sample

theorem Ledger.run_solvent_loaded :
    (∃ stakes, (run Sample.events Sample.ledger).keeper.outstandingStakes = .ok stakes ∧
      stakes ≤ (run Sample.events Sample.ledger).bank.pool ∧
      (run Sample.events Sample.ledger).bank.pool.toNat - stakes.toNat = minted Sample.events Sample.ledger) ∧
      (run Sample.events.tail Sample.opening).keeper.outstandingStakes =
        .ok (run Sample.events.tail Sample.opening).bank.pool := by
  constructor
  · have hcovered : Sample.ledger.bank.pool ≤ Sample.ledger.bank.pool := Amount.le_iff.mpr (Nat.le_refl _)
    obtain ⟨stakes, hstakes, hle, hsurplus⟩ := run_solvent.1 (.inr ⟨_, _, Sample.load_state⟩)
      Sample.outstandingStakes_ledger hcovered Sample.events
    rw [Nat.sub_self, Nat.zero_add] at hsurplus
    exact ⟨stakes, hstakes, hle, hsurplus⟩
  · have hnone : ∀ amount, .mintPool amount ∉ Sample.events.tail := by simp [Sample.events]
    have created : Keeper.new _ _ _ = .ok Sample.opening.keeper := Sample.new_fresh
    exact (run_solvent.2 created rfl Sample.events.tail hnone).1

end Roshambo
