import Roshambo.Proofs.Accounts
import Roshambo.Proofs.WellFormed
import Roshambo.Settlement.Plan

namespace Roshambo.Settlement

variable {now : Instant} {store : GameStore} {game : Game} {s : Settlement}

lemma plan_eq_some_iff : plan now store game = .ok (some s) ↔
    (store.commitCount game.id < maxPlayers ∧ game.commitClosed now ∧ s = unjoined game (store.commitsOf game.id)) ∨
      (maxPlayers ≤ store.commitCount game.id ∧ ∃ deadline prize, game.revealDeadline = some deadline ∧
        ¬ (store.revealCount game.id < maxPlayers ∧ now < deadline) ∧ game.prize? = some prize ∧
        s = joined game prize (store.commitsOf game.id) (store.revealsOf game.id)) := by
  simp only [plan, GameStore.commitCount, GameStore.revealCount]
  by_cases hfew : (store.commitsOf game.id).length < maxPlayers
  · have hnot : ¬ maxPlayers ≤ (store.commitsOf game.id).length := Nat.not_le.mpr hfew
    by_cases hclosed : game.commitClosed now <;> simp [hfew, hnot, hclosed, eq_comm]
  · have hmany : maxPlayers ≤ (store.commitsOf game.id).length := Nat.not_lt.mp hfew
    simp only [hfew, hmany, if_false, false_and, false_or, true_and]
    cases game.revealDeadline with
    | none => simp
    | some deadline =>
      by_cases hopen : (store.revealsOf game.id).length < maxPlayers ∧ now < deadline
      · simp [hopen]
      · cases game.prize? <;> simp [hopen, -not_and, eq_comm]

lemma plan_eq_error {e : GameError} (h : plan now store game = .error e) :
    game.prize? = none ∧ maxPlayers ≤ store.commitCount game.id := by
  simp only [plan] at h
  split at h
  · cases h
  · rename_i hmany
    refine ⟨?_, Nat.not_lt.mp hmany⟩
    split at h
    · cases h
    · split at h
      · cases h
      · split at h
        · assumption
        · cases h

lemma game_unjoined (commits : List (Address × MoveCommit)) : (unjoined game commits).game = game.id := by
  cases commits <;> rfl

lemma game_showdown (prize : Amount) (first second : Address × MoveReveal) :
    (showdown game prize first second).game = game.id := by
  simp only [showdown]
  split <;> rfl

lemma game_joined (prize : Amount) (commits : List (Address × MoveCommit)) (reveals : List (Address × MoveReveal)) :
    (joined game prize commits reveals).game = game.id := by
  rcases reveals with _ | ⟨first, _ | ⟨second, rest⟩⟩
  · rfl
  · rfl
  · exact game_showdown prize first second

lemma plan_game (h : plan now store game = .ok (some s)) : s.game = game.id := by
  rcases plan_eq_some_iff.mp h with ⟨_, _, rfl⟩ | ⟨_, _, prize, _, _, _, rfl⟩
  · exact game_unjoined _
  · exact game_joined prize _ _

lemma total_unjoined {commits : List (Address × MoveCommit)} (h : commits.length = 1) :
    Payout.total (unjoined game commits).payouts = game.entryFee.toNat := by
  obtain ⟨⟨player, commit⟩, rfl⟩ := List.length_eq_one_iff.mp h
  rfl

lemma total_refunds (commits : List (Address × MoveCommit)) (fee : Amount) :
    Payout.total (commits.map fun c => ⟨c.1, fee⟩) = commits.length * fee.toNat := by
  induction commits with
  | nil => simp
  | cons c rest ih =>
    rw [List.map_cons, Payout.total_cons, ih, List.length_cons, Nat.succ_mul, Nat.add_comm]

lemma total_showdown {prize : Amount} (hprize : prize.toNat = 2 * game.entryFee.toNat)
    (first second : Address × MoveReveal) :
    Payout.total (showdown game prize first second).payouts = 2 * game.entryFee.toNat := by
  simp only [showdown]
  split
  · simp only [Payout.total_cons, Payout.total_nil]
    omega
  · exact hprize
  · exact hprize

lemma total_joined {prize : Amount} (hprize : prize.toNat = 2 * game.entryFee.toNat)
    {commits : List (Address × MoveCommit)} (hcommits : commits.length = 2) (reveals : List (Address × MoveReveal)) :
    Payout.total (joined game prize commits reveals).payouts = 2 * game.entryFee.toNat := by
  rcases reveals with _ | ⟨first, _ | ⟨second, rest⟩⟩
  · rw [joined, total_refunds, hcommits]
  · exact hprize
  · exact total_showdown hprize first second

lemma prize_toNat {prize : Amount} (h : game.prize? = some prize) : prize.toNat = 2 * game.entryFee.toNat := by
  rw [Game.prize?, Amount.times?_eq_some_iff, Nat.mul_comm] at h
  exact h

variable {κ : Type} [AddressCodec κ] {codec : κ}

lemma total_of_plan (hstore : store.WellFormed codec) (hgame : store.game? game.id = some game)
    (h : plan now store game = .ok (some s)) :
    Payout.total s.payouts = store.commitCount game.id * game.entryFee.toNat := by
  have hcount := hstore.oneOrTwo hgame
  rcases plan_eq_some_iff.mp h with ⟨hfew, _, rfl⟩ | ⟨hmany, deadline, prize, _, _, hprize, rfl⟩
  · rw [maxPlayers] at hfew
    have hone : store.commitCount game.id = 1 := by omega
    rw [total_unjoined hone, hone, Nat.one_mul]
  · rw [maxPlayers] at hmany
    have htwo : store.commitCount game.id = 2 := by omega
    rw [total_joined (prize_toNat hprize) htwo, htwo]

lemma plan_ne_error (hstore : store.WellFormed codec) (hgame : store.game? game.id = some game) (e : GameError) :
    plan now store game ≠ .error e := by
  intro h
  obtain ⟨hprize, _⟩ := plan_eq_error h
  rw [Game.prize?, Amount.times?_eq_none_iff, Nat.mul_comm] at hprize
  have hfits := hstore.prizeFits hgame
  exact absurd hprize (Nat.not_le.mpr hfits)

end Roshambo.Settlement
