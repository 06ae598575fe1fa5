import Roshambo.Proofs.Accounts

namespace Roshambo

inductive Movement
  | mint (recipient : Address) (amount : Amount)
  | mintPool (amount : Amount)
  | deposit (payer : Address) (amount : Amount)
  | payOut (payouts : List Payout)
  deriving DecidableEq

namespace Movement

def apply (accounts : Accounts) : Movement → Except LedgerError Accounts
  | mint recipient amount => accounts.mint recipient amount
  | mintPool amount => accounts.mintPool amount
  | deposit payer amount => accounts.deposit payer amount
  | payOut payouts => accounts.payOut payouts

def minted (address : Address) : Movement → Nat
  | mint recipient amount => if recipient = address then amount.toNat else 0
  | _ => 0

def credited (address : Address) : Movement → Nat
  | payOut payouts => Payout.owed payouts address
  | _ => 0

def debited (address : Address) : Movement → Nat
  | deposit payer amount => if payer = address then amount.toNat else 0
  | _ => 0

def mintedToPool : Movement → Nat
  | mintPool amount => amount.toNat
  | _ => 0

def deposited : Movement → Nat
  | deposit _ amount => amount.toNat
  | _ => 0

def paidOut : Movement → Nat
  | payOut payouts => Payout.total payouts
  | _ => 0

def created : Movement → Nat
  | mint _ amount => amount.toNat
  | mintPool amount => amount.toNat
  | _ => 0

def sum (part : Movement → Nat) (movements : List Movement) : Nat := (movements.map part).sum

@[simp] lemma sum_nil (part : Movement → Nat) : sum part [] = 0 := rfl

@[simp] lemma sum_cons (part : Movement → Nat) (movement : Movement) (movements : List Movement) :
    sum part (movement :: movements) = part movement + sum part movements := rfl

end Movement

namespace Accounts

open Movement

variable {accounts middle after : Accounts} {movement : Movement} {movements : List Movement}

def move (accounts : Accounts) (movement : Movement) : Accounts :=
  match movement.apply accounts with
  | .ok after => after
  | .error _ => accounts

def run (accounts : Accounts) (movements : List Movement) : Accounts := movements.foldl move accounts

def accepted (accounts : Accounts) : List Movement → List Movement
  | [] => []
  | movement :: rest =>
    match movement.apply accounts with
    | .ok after => movement :: after.accepted rest
    | .error _ => accounts.accepted rest

structure Booked (accounts : Accounts) (movements : List Movement) (after : Accounts) : Prop where
  balance : ∀ address, (after.balance address).toNat + sum (debited address) movements =
    (accounts.balance address).toNat + sum (minted address) movements + sum (credited address) movements
  pool : after.pool.toNat + sum paidOut movements =
    accounts.pool.toNat + sum mintedToPool movements + sum deposited movements
  supply : after.supply = accounts.supply + sum created movements
  owner : after.owner = accounts.owner

namespace Booked

lemma nil (accounts : Accounts) : accounts.Booked [] accounts where
  balance _ := rfl
  pool := rfl
  supply := rfl
  owner := rfl

lemma cons (first : accounts.Booked [movement] middle) (rest : middle.Booked movements after) :
    accounts.Booked (movement :: movements) after where
  balance address := by
    have hfirst := first.balance address
    have hrest := rest.balance address
    simp only [sum_cons, sum_nil] at hfirst ⊢
    omega
  pool := by
    have hfirst := first.pool
    have hrest := rest.pool
    simp only [sum_cons, sum_nil] at hfirst ⊢
    omega
  supply := by
    have hfirst := first.supply
    have hrest := rest.supply
    simp only [sum_cons, sum_nil] at hfirst ⊢
    omega
  owner := rest.owner.trans first.owner

end Booked

lemma booked_mint {recipient : Address} {amount : Amount} (h : accounts.mint recipient amount = .ok after) :
    accounts.Booked [.mint recipient amount] after := by
  obtain ⟨updated, hupdated, rfl⟩ := mint_eq_ok h
  have htotal := balancesTotal_insert accounts.balances recipient updated
  simp only [balance] at hupdated
  refine { balance := fun address => ?balance, pool := rfl, supply := ?supply, owner := rfl }
  case balance =>
    simp only [balance, balanceIn_insert, sum_cons, sum_nil, debited, minted, credited]
    by_cases haddress : address = recipient
    · simp only [haddress, if_true, hupdated]
      omega
    · simp only [haddress, Ne.symm haddress, if_false]
  case supply =>
    simp only [supply, sum_cons, sum_nil, created]
    omega

lemma booked_mintPool {amount : Amount} (h : accounts.mintPool amount = .ok after) :
    accounts.Booked [.mintPool amount] after := by
  obtain ⟨hpool, hafter⟩ := mintPool_eq_ok_iff.mp h
  have hbalances : after.balances = accounts.balances := by rw [hafter]
  have howner : after.owner = accounts.owner := by rw [hafter]
  refine { balance := fun address => ?balance, pool := hpool, supply := ?supply, owner := howner }
  case balance => rw [balance, balance, hbalances]; rfl
  case supply =>
    simp only [supply, hbalances, hpool, sum_cons, sum_nil, created]
    omega

lemma booked_deposit {payer : Address} {amount : Amount} (h : accounts.deposit payer amount = .ok after) :
    accounts.Booked [.deposit payer amount] after := by
  obtain ⟨remaining, hremaining, hpool, hafter⟩ := deposit_eq_ok h
  have hbalances : after.balances = accounts.balances.insert payer remaining := by rw [hafter]
  have howner : after.owner = accounts.owner := by rw [hafter]
  have htotal := balancesTotal_insert accounts.balances payer remaining
  simp only [balance] at hremaining
  refine { balance := fun address => ?balance, pool := hpool, supply := ?supply, owner := howner }
  case balance =>
    simp only [balance, hbalances, balanceIn_insert, sum_cons, sum_nil, debited, minted, credited]
    by_cases haddress : address = payer
    · simp only [haddress, if_true, hremaining]
      omega
    · simp only [haddress, Ne.symm haddress, if_false]
  case supply =>
    simp only [supply, hbalances, sum_cons, sum_nil, created]
    omega

lemma booked_payOut {payouts : List Payout} (h : accounts.payOut payouts = .ok after) :
    accounts.Booked [.payOut payouts] after := by
  obtain ⟨hpool, hbalances, howner⟩ := payOut_eq_ok h
  exact
    { balance := fun address => balanceIn_credits hbalances address, pool := hpool.symm, supply := supply_payOut h,
      owner := howner }

lemma booked_apply (h : movement.apply accounts = .ok after) : accounts.Booked [movement] after := by
  cases movement with
  | mint recipient amount => exact booked_mint h
  | mintPool amount => exact booked_mintPool h
  | deposit payer amount => exact booked_deposit h
  | payOut payouts => exact booked_payOut h

lemma move_of_error {e : LedgerError} (h : movement.apply accounts = .error e) : accounts.move movement = accounts := by
  rw [move, h]

lemma booked_run (accounts : Accounts) (movements : List Movement) :
    accounts.Booked (accounts.accepted movements) (accounts.run movements) := by
  induction movements generalizing accounts with
  | nil => exact .nil accounts
  | cons movement rest ih =>
    rw [run, List.foldl_cons, ← run, accepted, move]
    cases h : movement.apply accounts with
    | ok after => exact .cons (booked_apply h) (ih after)
    | error e => exact ih accounts

section Staging

variable {balances staged : Balances}

def stage (balances staged : Balances) (payout : Payout) : Except LedgerError Balances := do
  let current := (staged.get? payout.recipient).getD (balanceIn balances payout.recipient)
  let updated ← orOverflow s!"balance of {payout.recipient}" (current.add? payout.amount)
  return staged.insert payout.recipient updated

lemma credit_update (payout : Payout) :
    credit (balances.update staged) payout = (stage balances staged payout).map balances.update := by
  have hcurrent : balanceIn (balances.update staged) payout.recipient =
      (staged.get? payout.recipient).getD (balanceIn balances payout.recipient) := by
    rw [balanceIn, SortedMap.get?_update, balanceIn]
    cases staged.get? payout.recipient <;> rfl
  rw [credit, stage, hcurrent]
  cases orOverflow s!"balance of {payout.recipient}"
    (((staged.get? payout.recipient).getD (balanceIn balances payout.recipient)).add? payout.amount) with
  | error e => rfl
  | ok updated => exact congrArg Except.ok (SortedMap.update_insert balances staged payout.recipient updated).symm

lemma credits_update (balances : Balances) (payouts : List Payout) (staged : Balances) :
    payouts.foldlM credit (balances.update staged) =
      (payouts.foldlM (stage balances) staged).map balances.update := by
  -- What is staged is written over the balances at every step of one side and at the end of the other.
  induction payouts generalizing staged with
  | nil => rfl
  | cons payout rest ih =>
    rw [List.foldlM_cons, List.foldlM_cons, credit_update]
    cases stage balances staged payout with
    | error e => rfl
    | ok staged' => exact ih staged'

/-- A batch credited payout by payout is the same as one staged beside the balances and written over them at the end. -/
theorem payOut_staged (accounts : Accounts) (payouts : List Payout) : accounts.payOut payouts = do
    let total ← orOverflow "payout batch total" (Amount.sum? (payouts.map (·.amount)))
    let some pool := accounts.pool.sub? total
      | throw (.insufficientFunds accounts.owner total accounts.pool)
    let staged ← payouts.foldlM (stage accounts.balances) ∅
    return { accounts with pool := pool, balances := accounts.balances.update staged } := by
  have hstaged := credits_update accounts.balances payouts ∅
  change payouts.foldlM credit accounts.balances = _ at hstaged
  rw [payOut]
  cases orOverflow "payout batch total" (Amount.sum? (payouts.map (·.amount))) with
  | error e => rfl
  | ok total =>
    simp only [ok_bind]
    cases accounts.pool.sub? total with
    | none => rfl
    | some pool =>
      simp only [hstaged]
      cases payouts.foldlM (stage accounts.balances) ∅ <;> rfl

end Staging

/-- After every run the accounts are the sum of the movements that were not refused, and a movement that is refused
next changes nothing. A batch is paid exactly if the pool holds its total and no account that it names would hold too
much with all its entries together. -/
theorem movements_add_up (accounts : Accounts) (movements : List Movement) :
    accounts.Booked (accounts.accepted movements) (accounts.run movements) ∧
    (∀ movement e, movement.apply (accounts.run movements) = .error e →
      accounts.run (movements ++ [movement]) = accounts.run movements) ∧
    ∀ payouts, (∃ after, (accounts.run movements).payOut payouts = .ok after) ↔
      Payout.total payouts ≤ (accounts.run movements).pool.toNat ∧ ∀ p ∈ payouts,
        ((accounts.run movements).balance p.recipient).toNat + Payout.owed payouts p.recipient < UInt64.size := by
  refine ⟨booked_run accounts movements, fun movement e h => ?_, fun payouts => payOut_ok_iff⟩
  rw [run, List.foldl_append, ← run]
  exact move_of_error h

end Accounts

def Sample.movements : List Movement :=
  [.mint ⟨[1]⟩ ⟨7⟩, .deposit ⟨[1]⟩ ⟨5⟩, .payOut [⟨⟨[2]⟩, ⟨1⟩⟩, ⟨⟨[2]⟩, ⟨2⟩⟩, ⟨⟨[2]⟩, ⟨0⟩⟩], .payOut [⟨⟨[1]⟩, ⟨3⟩⟩]]

theorem Accounts.movements_add_up_repeated :
    ((new "rps").accepted Sample.movements).length = 3 ∧
    (((new "rps").run Sample.movements).balance ⟨[2]⟩).toNat = 3 ∧
    ((new "rps").run Sample.movements).supply = 7 ∧
    (new "rps").run (Sample.movements ++ [.deposit ⟨[3]⟩ ⟨1⟩]) = (new "rps").run Sample.movements ∧
    ∃ after, ((new "rps").run Sample.movements).payOut [⟨⟨[2]⟩, ⟨1⟩⟩, ⟨⟨[2]⟩, ⟨1⟩⟩] = .ok after := by
  obtain ⟨booked, refused, paid⟩ := movements_add_up (new "rps") Sample.movements
  refine ⟨by decide +kernel, ?_, ?_, refused (.deposit ⟨[3]⟩ ⟨1⟩) (.insufficientFunds "03" ⟨1⟩ ⟨0⟩) (by decide +kernel),
    (paid [⟨⟨[2]⟩, ⟨1⟩⟩, ⟨⟨[2]⟩, ⟨1⟩⟩]).mpr (by decide +kernel)⟩
  · exact (booked.balance ⟨[2]⟩).trans (by decide +kernel)
  · exact booked.supply.trans (by decide +kernel)

end Roshambo
