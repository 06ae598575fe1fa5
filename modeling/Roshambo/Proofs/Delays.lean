import Mathlib.Data.List.Nodup
import Roshambo.Proofs.Batches
import Roshambo.Proofs.Instants
import Roshambo.Proofs.Preview

namespace Roshambo

variable {κ β : Type}

namespace Settlement

variable {store : GameStore} {now later : Instant} {s : Settlement} {planned : List Settlement}

lemma plan_of_le {game : Game} (h : plan now store game = .ok (some s)) (order : now ≤ later) :
    plan later store game = .ok (some s) := by
  rw [plan_eq_some_iff] at h ⊢
  rcases h with ⟨hfew, hclosed, hs⟩ | ⟨hmany, deadline, prize, hdeadline, hover, hrest⟩
  · refine Or.inl ⟨hfew, ?_, hs⟩
    rw [Game.commitClosed, decide_eq_true_eq] at hclosed ⊢
    exact Instant.lt_of_lt_of_le hclosed order
  · refine Or.inr ⟨hmany, deadline, prize, hdeadline, fun hopen => ?_, hrest⟩
    -- A deadline after the later time would be after the earlier one.
    exact hover ⟨hopen.1, Instant.lt_of_le_of_lt order hopen.2⟩

lemma Due.of_le (h : Due now store s) (order : now ≤ later) : Due later store s := by
  obtain ⟨game, hgame, hplan⟩ := h
  exact ⟨game, hgame, plan_of_le hplan order⟩

lemma Planned.mem_iff {games : List Game} (h : Planned now store games planned) :
    s ∈ planned ↔ ∃ game ∈ games, plan now store game = .ok (some s) := by
  induction h with
  | nil => simp
  | skip hplan _ ih => simp [ih, hplan]
  | due hplan _ ih => simp [ih, hplan, eq_comm]

lemma sweepSteps_ok {games : List Game} (h : ∀ game ∈ games, ∀ e, plan now store game ≠ .error e)
    (done : GameStore × List Settlement) : ∃ next, games.foldlM (sweepStep now store) done = .ok next := by
  induction games generalizing done with
  | nil => exact ⟨done, rfl⟩
  | cons game rest ih =>
    obtain ⟨hgame, hrest⟩ := List.forall_mem_cons.mp h
    rw [List.foldlM_cons, sweepStep_eq]
    cases hplan : plan now store game with
    | error e => exact (hgame e hplan).elim
    | ok due =>
      cases due with
      | none => exact ih hrest _
      | some s => exact ih hrest _

lemma mem_sweep_iff {next : GameStore} (ownIds : store.OwnIds) (swept : sweep now store = .ok (next, planned)) :
    s ∈ planned ↔ Due now store s := by
  rw [(sweep_eq_ok swept).1.mem_iff]
  constructor
  · rintro ⟨game, hgame, hplan⟩
    exact ⟨game, plan_game hplan ▸ GameStore.game?_of_mem_values ownIds hgame, hplan⟩
  · rintro ⟨game, hgame, hplan⟩
    exact ⟨game, SortedMap.mem_values.mpr ⟨_, hgame⟩, hplan⟩

lemma sweep_nodup {next : GameStore} (ownIds : store.OwnIds) (swept : sweep now store = .ok (next, planned)) :
    (planned.map (·.game)).Nodup :=
  (sweep_sorted ownIds swept).imp UInt64.ne_of_lt

variable [AddressCodec κ] {codec : κ}

lemma exists_sweep (hstore : store.WellFormed codec) (now : Instant) :
    ∃ planned, sweep now store = .ok (store.without (planned.map (·.game)), planned) ∧
      (∀ s, s ∈ planned ↔ Due now store s) ∧ (planned.map (·.game)).Nodup := by
  have ownIds : store.OwnIds := fun _ _ => hstore.ownId
  have hplans : ∀ game ∈ store.games.values, ∀ e, plan now store game ≠ .error e :=
    fun game hgame => plan_ne_error hstore (GameStore.game?_of_mem_values ownIds hgame)
  obtain ⟨⟨next, planned⟩, hsweep⟩ := sweepSteps_ok hplans (store, [])
  obtain ⟨_, rfl⟩ := sweep_eq_ok hsweep
  exact ⟨planned, hsweep, fun s => mem_sweep_iff ownIds hsweep, sweep_nodup ownIds hsweep⟩

end Settlement

namespace Settlement

variable {store : GameStore} {now later : Instant} {paid rest planned : List Settlement}

lemma planned_perm (order : now ≤ later) (hpaid : ∀ s ∈ paid, Due now store s) (hnodup : (paid.map (·.game)).Nodup)
    (hplanned : ∀ s, s ∈ planned ↔ Due later store s) (hplannedNodup : (planned.map (·.game)).Nodup)
    (hrest : ∀ s, s ∈ rest ↔ Due later (store.without (paid.map (·.game))) s) (hrestNodup : (rest.map (·.game)).Nodup) :
    planned.Perm (paid ++ rest) := by
  have hdisjoint : ∀ s ∈ paid, s ∉ rest := fun s hs hr =>
    (due_without.mp ((hrest s).mp hr)).2 (List.mem_map.mpr ⟨s, hs, rfl⟩)
  have happend : (paid ++ rest).Nodup := List.nodup_append.mpr
    ⟨hnodup.of_map _, hrestNodup.of_map _, fun s hs t ht he => hdisjoint s hs (he ▸ ht)⟩
  refine (List.perm_ext_iff_of_nodup (hplannedNodup.of_map _) happend).mpr fun s => ?_
  rw [hplanned, List.mem_append, hrest, due_without]
  constructor
  · intro hdue
    by_cases hgame : s.game ∈ paid.map (·.game)
    · obtain ⟨t, ht, hsame⟩ := List.mem_map.mp hgame
      exact Or.inl (((hpaid t ht).of_le order).unique hdue hsame ▸ ht)
    · exact Or.inr ⟨hdue, hgame⟩
  · rintro (hs | ⟨hdue, _⟩)
    · exact (hpaid s hs).of_le order
    · exact hdue

lemma payAll_rest {accounts middle : Accounts} (hperm : planned.Perm (paid ++ rest))
    (hpool : Payout.total (planned.flatMap (·.payouts)) ≤ accounts.pool.toNat)
    (hsupply : accounts.supply < UInt64.size) (hpaid : payAll paid accounts = .ok middle) :
    ∃ after, payAll planned accounts = .ok after ∧ payAll rest middle = .ok after := by
  obtain ⟨after, hafter⟩ := payAll_of_fit hpool hsupply
  rw [Payout.total_perm (hperm.flatMap_right (·.payouts))] at hpool
  obtain ⟨after', hafter'⟩ := payAll_of_fit hpool hsupply
  obtain rfl := payAll_perm hperm hafter hafter'
  rw [payAll_append, hpaid] at hafter'
  exact ⟨after, hafter, hafter'⟩

end Settlement

def Ledger.thawed (ledger : Ledger κ (Freezable β)) : Ledger κ (Freezable β) :=
  { ledger with bank := ledger.bank.thawed }

open Settlement

variable [AddressCodec κ]

/-- A round that could not pay the frozen accounts and a later one with nobody frozen lead to the same records and
money as the later one alone, which settles what the two settle. -/
theorem Keeper.refusals_only_delay {keeper : Keeper κ} {bank : Accounts} {stakes : Amount}
    (reachable : keeper.Reachable) (known : keeper.outstandingStakes = .ok stakes) (covered : stakes ≤ bank.pool)
    (supply : bank.supply < UInt64.size) (frozen : List Address) {first second : Block}
    (order : first.time ≤ second.time) :
    ∃ settled later final,
      Transaction.endRound second ⟨keeper, Freezable.mk bank []⟩ = .ok ⟨second.height, settled, []⟩ final ∧
      Transaction.endRound second ((Transaction.endRound first).after ⟨keeper, Freezable.mk bank frozen⟩).thawed =
        .ok ⟨second.height, later, []⟩ final ∧
      settled.Perm (Transaction.paid first ⟨keeper, Freezable.mk bank frozen⟩ ++ later) := by
  have hstore := reachable.wellFormed
  let before : Ledger κ (Freezable Accounts) := ⟨keeper, Freezable.mk bank frozen⟩
  let paid := Transaction.paid first before
  have ownIds : before.keeper.store.OwnIds := fun _ _ => hstore.ownId
  obtain ⟨middle, hmiddle, hafter⟩ := Transaction.endRound_after ownIds first
  obtain ⟨hpaid, _⟩ := Freezable.payAll_eq_ok hmiddle
  obtain ⟨settled, hsettled, hmem, hnodup⟩ := exists_sweep hstore second.time
  obtain ⟨later, hlater, hmem', hnodup'⟩ := exists_sweep (hstore.without (paid.map (·.game))) second.time
  have hperm : settled.Perm (paid ++ later) := planned_perm order (fun s hs => Transaction.due_of_mem_paid ownIds hs)
    (Transaction.paid_nodup ownIds) hmem hnodup hmem' hnodup'
  -- Both ways pay the same batches, in different orders.
  obtain ⟨_, htotal⟩ := Keeper.outstandingStakes_eq_ok_iff.mp known
  have hstakes := stakes_eq_total hstore (fun s => (hmem s).mp) hnodup
  have hpool : Payout.total (settled.flatMap (·.payouts)) ≤ bank.pool.toNat := by
    rw [Amount.le_iff] at covered
    omega
  obtain ⟨bank', hbank, hbank'⟩ := payAll_rest hperm hpool supply hpaid
  have hids : ∀ id, id ∈ settled.map (·.game) ↔ id ∈ paid.map (·.game) ++ later.map (·.game) := by
    intro id
    rw [← List.map_append]
    exact (hperm.map (·.game)).mem_iff
  refine ⟨settled, later, ⟨{ keeper with store := keeper.store.without (settled.map (·.game)) }, ⟨bank', []⟩⟩, ?_, ?_,
    hperm⟩
  · exact Transaction.endRound_of_paid ownIds hsettled (Freezable.payAll_thawed hbank)
  · rw [hafter, Ledger.thawed, Freezable.thawed_eq, GameStore.without_congr hids, ← GameStore.without_without]
    exact Transaction.endRound_of_paid (ownIds.without _) hlater (Freezable.payAll_thawed hbank')

theorem Keeper.refusals_only_delay_loaded :
    (∃ e, Transaction.answer (Transaction.endRound ⟨1, .epoch⟩)
      ⟨Sample.loaded, Freezable.mk Sample.ledger.bank [⟨[2]⟩]⟩ = .error e) ∧
    ∃ settled later final,
      Transaction.endRound ⟨2, .epoch⟩ ⟨Sample.loaded, Freezable.mk Sample.ledger.bank []⟩ =
        .ok ⟨2, settled, []⟩ final ∧
      Transaction.endRound ⟨2, .epoch⟩ ((Transaction.endRound ⟨1, .epoch⟩).after
        ⟨Sample.loaded, Freezable.mk Sample.ledger.bank [⟨[2]⟩]⟩).thawed = .ok ⟨2, later, []⟩ final := by
  have covered : Sample.ledger.bank.pool ≤ Sample.ledger.bank.pool := Amount.le_iff.mpr (Nat.le_refl _)
  have supply : Sample.ledger.bank.supply < UInt64.size := by decide +kernel
  have order : Block.time ⟨1, .epoch⟩ ≤ Block.time ⟨2, .epoch⟩ := by decide
  refine ⟨⟨.settlement 0 Freezable.refusal, by decide +kernel⟩, ?_⟩
  obtain ⟨settled, later, final, hsettled, hlater, _⟩ := refusals_only_delay Sample.loaded_reachable
    Sample.outstandingStakes_ledger covered supply [⟨[2]⟩] order
  exact ⟨settled, later, final, hsettled, hlater⟩

end Roshambo
