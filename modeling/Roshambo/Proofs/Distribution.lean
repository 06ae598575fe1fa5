import Roshambo.Proofs.Delays
import Roshambo.Proofs.Fairness

namespace Roshambo

namespace Settlement

variable {now : Instant} {store : GameStore} {game : Game} {s : Settlement} {p : Payout} {prize : Amount}
  {commits : List (Address × MoveCommit)} {reveals : List (Address × MoveReveal)}

def recipients (s : Settlement) : List Address := s.payouts.map (·.recipient)

lemma recipients_unjoined : ((unjoined game commits).recipients).Sublist (commits.map (·.1)) := by
  cases commits with
  | nil => exact .slnil
  | cons c rest => exact (List.nil_sublist _).cons_cons c.1

lemma recipients_refunds (fee : Amount) :
    (commits.map fun c => (⟨c.1, fee⟩ : Payout)).map (·.recipient) = commits.map (·.1) := by
  rw [List.map_map]
  rfl

lemma recipients_showdown (first second : Address × MoveReveal) :
    ((showdown game prize first second).recipients).Sublist [first.1, second.1] := by
  simp only [showdown]
  split
  · exact .refl _
  · exact (List.nil_sublist _).cons_cons first.1
  · exact ((List.nil_sublist _).cons_cons second.1).cons first.1

lemma recipients_joined : ((joined game prize commits reveals).recipients).Sublist (commits.map (·.1)) ∨
    ((joined game prize commits reveals).recipients).Sublist (reveals.map (·.1)) := by
  -- Only the refunds of an abandoned game go by the commits; a draw and a prize go by the reveals.
  rcases reveals with _ | ⟨first, _ | ⟨second, rest⟩⟩
  · left
    rw [recipients, joined, recipients_refunds]
  · exact Or.inr (.refl _)
  · right
    exact (recipients_showdown first second).trans (((List.nil_sublist _).cons_cons second.1).cons_cons first.1)

lemma amount_unjoined (h : p ∈ (unjoined game commits).payouts) : p.amount = game.entryFee := by
  cases commits with
  | nil => cases h
  | cons c rest => rw [List.mem_singleton.mp h]

lemma amount_showdown {first second : Address × MoveReveal} (h : p ∈ (showdown game prize first second).payouts) :
    p.amount = game.entryFee ∨ p.amount = prize := by
  simp only [showdown] at h
  split at h
  · left
    rcases List.mem_pair.mp h with rfl | rfl <;> rfl
  · exact Or.inr (congrArg Payout.amount (List.mem_singleton.mp h))
  · exact Or.inr (congrArg Payout.amount (List.mem_singleton.mp h))

lemma amount_joined (h : p ∈ (joined game prize commits reveals).payouts) :
    p.amount = game.entryFee ∨ p.amount = prize := by
  rcases reveals with _ | ⟨first, _ | ⟨second, rest⟩⟩
  · obtain ⟨c, _, rfl⟩ := List.mem_map.mp h
    exact Or.inl rfl
  · exact Or.inr (congrArg Payout.amount (List.mem_singleton.mp h))
  · exact amount_showdown h

lemma recipients_of_plan (h : plan now store game = .ok (some s)) :
    s.recipients.Sublist ((store.commitsOf game.id).map (·.1)) ∨
      s.recipients.Sublist ((store.revealsOf game.id).map (·.1)) := by
  rcases plan_eq_some_iff.mp h with ⟨_, _, rfl⟩ | ⟨_, _, _, _, _, _, rfl⟩
  · exact Or.inl recipients_unjoined
  · exact recipients_joined

lemma recipients_nodup (h : plan now store game = .ok (some s)) : s.recipients.Nodup := by
  rcases recipients_of_plan h with hsub | hsub
  · exact (GameStore.ofGame_players_nodup _ _).sublist hsub
  · exact (GameStore.ofGame_players_nodup _ _).sublist hsub

lemma total?_eq_some_iff {total : Amount} : s.total? = some total ↔ total.toNat = Payout.total s.payouts :=
  Payout.sum?_eq_some_iff

variable {κ : Type} [AddressCodec κ] {codec : κ}

lemma recipient_committed (hstore : store.WellFormed codec) (h : plan now store game = .ok (some s))
    (hp : p ∈ s.payouts) : ∃ commit, store.commit? game.id p.recipient = some commit := by
  have hmem : p.recipient ∈ s.recipients := List.mem_map_of_mem hp
  rcases recipients_of_plan h with hsub | hsub
  · obtain ⟨⟨player, commit⟩, hcommit, hplayer⟩ := List.mem_map.mp (hsub.subset hmem)
    exact ⟨commit, hplayer ▸ GameStore.mem_ofGame.mp hcommit⟩
  · obtain ⟨⟨player, reveal⟩, hreveal, hplayer⟩ := List.mem_map.mp (hsub.subset hmem)
    exact hplayer ▸ hstore.revealOfCommit (GameStore.mem_ofGame.mp hreveal)

lemma amount_pos (hstore : store.WellFormed codec) (hgame : store.game? game.id = some game)
    (h : plan now store game = .ok (some s)) (hp : p ∈ s.payouts) : 0 < p.amount.toNat := by
  have hfee := hstore.feePositive hgame
  rcases plan_eq_some_iff.mp h with ⟨_, _, rfl⟩ | ⟨_, _, prize, _, _, hprize, rfl⟩
  · rw [amount_unjoined hp]
    exact hfee
  · have hdouble := prize_toNat hprize
    rcases amount_joined hp with hamount | hamount
    · rw [hamount]
      exact hfee
    · rw [hamount]
      omega

lemma total?_of_plan (hstore : store.WellFormed codec) (hgame : store.game? game.id = some game)
    (h : plan now store game = .ok (some s)) :
    ∃ total, s.total? = some total ∧ game.entryFee.times? (store.commitCount game.id) = some total := by
  have htotal := total_of_plan hstore hgame h
  have hfits := hstore.prizeFits hgame
  have hlt : Payout.total s.payouts < UInt64.size := by
    rw [htotal]
    rcases hstore.oneOrTwo hgame with hone | htwo
    · rw [hone]
      omega
    · rw [htwo]
      exact hfits
  obtain ⟨total, hsum, hnat⟩ := Payout.sum?_of_lt hlt
  refine ⟨total, hsum, Amount.times?_eq_some_iff.mpr ?_⟩
  rw [hnat, htotal, Nat.mul_comm]

lemma totals_of_due {planned : List Settlement} (hstore : store.WellFormed codec)
    (hdue : ∀ s ∈ planned, Due now store s) :
    ∃ totals, planned.mapM total? = some totals ∧
      (totals.map Amount.toNat).sum = Payout.total (planned.flatMap (·.payouts)) := by
  induction planned with
  | nil => exact ⟨[], rfl, rfl⟩
  | cons s rest ih =>
    obtain ⟨⟨game, hgame, hplan⟩, hrest⟩ := List.forall_mem_cons.mp hdue
    obtain ⟨totals, htotals, hsum⟩ := ih hrest
    obtain ⟨total, htotal, _⟩ := total?_of_plan hstore (plan_game hplan ▸ hgame) hplan
    refine ⟨total :: totals, ?_, ?_⟩
    · simp [htotal, htotals]
    · rw [List.map_cons, List.sum_cons, hsum, List.flatMap_cons, Payout.total_append, total?_eq_some_iff.mp htotal]

end Settlement

variable {κ : Type} [AddressCodec κ]

lemma Keeper.outstanding_of_stakes {keeper after : Keeper κ} {before : Amount} {totals : List Amount}
    (hafter : after.store.WellFormed after.codec) (known : keeper.outstandingStakes = .ok before)
    (hsum : (totals.map Amount.toNat).sum + after.store.stakes = keeper.store.stakes) :
    ∃ left spent, after.outstandingStakes = .ok left ∧ Amount.sum? totals = some spent ∧
      before.sub? left = some spent := by
  obtain ⟨_, hbefore⟩ := outstandingStakes_eq_ok_iff.mp known
  have hlt := before.toNat_lt
  have hleft : after.store.stakes < UInt64.size := by omega
  have hspent : (totals.map Amount.toNat).sum < UInt64.size := by omega
  obtain ⟨left, hleft⟩ := Amount.exists_toNat hleft
  obtain ⟨spent, hsum?, hspent⟩ := Amount.sum?_of_lt hspent
  refine ⟨left, spent, hafter.outstandingStakes hleft, hsum?, Amount.sub?_eq_some_iff.mpr ?_⟩
  omega

open Settlement

/-- However a game closes, its entry fees go in positive shares to different players who committed to it, and a sweep
takes out of the outstanding stakes exactly what its settlements pay. -/
theorem Keeper.settlements_pay_stakes {keeper : Keeper κ} (reachable : keeper.Reachable) :
    (∀ now id game s, keeper.store.game? id = some game → plan now keeper.store game = .ok (some s) →
      game.id = id ∧ s.game = id ∧ s.recipients.Nodup ∧
      (∀ p ∈ s.payouts, 0 < p.amount.toNat ∧ ∃ commit, keeper.store.commit? id p.recipient = some commit) ∧
      ∃ total, s.total? = some total ∧ game.entryFee.times? (keeper.store.commitCount id) = some total) ∧
    ∀ now, ∃ next planned totals, sweep now keeper.store = .ok (next, planned) ∧
      planned.mapM total? = some totals ∧ (totals.map Amount.toNat).sum + next.stakes = keeper.store.stakes ∧
      ∀ before, keeper.outstandingStakes = .ok before →
        ∃ left spent, { keeper with store := next }.outstandingStakes = .ok left ∧ Amount.sum? totals = some spent ∧
          before.sub? left = some spent := by
  have h := reachable.wellFormed
  constructor
  · intro now id game s hgame hplan
    obtain rfl := h.ownId hgame
    exact ⟨rfl, plan_game hplan, recipients_nodup hplan,
      fun p hp => ⟨amount_pos h hgame hplan hp, recipient_committed h hplan hp⟩, total?_of_plan h hgame hplan⟩
  · intro now
    obtain ⟨planned, hsweep, hmem, hnodup⟩ := exists_sweep h now
    have hdue : ∀ s ∈ planned, Due now keeper.store s := fun s => (hmem s).mp
    obtain ⟨totals, htotals, hsum⟩ := totals_of_due h hdue
    have hstakes := stakes_eq_total h hdue hnodup
    rw [← hsum] at hstakes
    exact ⟨_, planned, totals, hsweep, htotals, hstakes.symm, fun before known =>
      outstanding_of_stakes (h.without _) known hstakes.symm⟩

theorem Keeper.settlements_pay_stakes_shown :
    (Sample.duel.recipients.Nodup ∧ ∃ total, Sample.duel.total? = some total ∧
      (⟨5⟩ : Amount).times? (Sample.shown.store.commitCount 0) = some total) ∧
    ∃ next planned totals, sweep .epoch Sample.shown.store = .ok (next, planned) ∧
      planned.mapM total? = some totals ∧
      ∃ left spent, { Sample.shown with store := next }.outstandingStakes = .ok left ∧
        Amount.sum? totals = some spent ∧ (⟨10⟩ : Amount).sub? left = some spent := by
  have reachable : Sample.shown.Reachable := .load (.new Sample.new_fresh) Sample.load_shownState
  have stored : Sample.shown.store.game? 0 = some ⟨0, ⟨5⟩, .epoch, some .epoch⟩ := by decide +kernel
  have due : plan .epoch Sample.shown.store ⟨0, ⟨5⟩, .epoch, some .epoch⟩ = .ok (some Sample.duel) := by
    decide +kernel
  have known : Sample.shown.outstandingStakes = .ok ⟨10⟩ := by decide +kernel
  obtain ⟨hplans, hsweeps⟩ := settlements_pay_stakes reachable
  obtain ⟨_, _, hnodup, _, htotal⟩ := hplans _ _ _ _ stored due
  obtain ⟨next, planned, totals, hsweep, htotals, _, hleft⟩ := hsweeps .epoch
  exact ⟨⟨hnodup, htotal⟩, next, planned, totals, hsweep, htotals, hleft _ known⟩

end Roshambo
