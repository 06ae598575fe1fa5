import Roshambo.Proofs.Payouts
import Roshambo.Proofs.Reachability

/-! A plan reads its records in the order of their addresses; what the players get does not depend on that order. -/

namespace Roshambo

variable {κ : Type}

namespace GameStore

variable {store : GameStore} {id : GameId}

def shown (store : GameStore) (id : GameId) (player : Address) : Option Move :=
  (store.reveals.get? ⟨id, player⟩).map (·.move)

def revealBeside (store : GameStore) (id : GameId) (c : Address × MoveCommit) : Option (Address × MoveReveal) :=
  (store.reveals.get? ⟨id, c.1⟩).map (c.1, ·)

variable [AddressCodec κ] {codec : κ}

lemma WellFormed.revealsOf_eq (h : store.WellFormed codec) (id : GameId) :
    store.revealsOf id = (store.commitsOf id).filterMap (store.revealBeside id) := by
  have hsorted : ((store.commitsOf id).filterMap (store.revealBeside id)).Pairwise
      fun a b => compare a.1 b.1 = .lt := by
    refine List.Pairwise.filterMap (store.revealBeside id) ?_ (ofGame_sorted store.commits id)
    intro a b hab ra ha rb hb
    obtain ⟨_, _, rfl⟩ := Option.map_eq_some_iff.mp ha
    obtain ⟨_, _, rfl⟩ := Option.map_eq_some_iff.mp hb
    exact hab
  refine SortedMap.eq_of_sorted (ofGame_sorted store.reveals id) hsorted ?_
  rintro ⟨player, reveal⟩
  rw [revealsOf, mem_ofGame, List.mem_filterMap]
  constructor
  · intro hreveal
    obtain ⟨commit, hcommit⟩ := h.revealOfCommit hreveal
    exact ⟨(player, commit), mem_ofGame.mpr hcommit, Option.map_eq_some_iff.mpr ⟨reveal, hreveal, rfl⟩⟩
  · rintro ⟨⟨_, _⟩, _, hbeside⟩
    obtain ⟨_, hreveal, heq⟩ := Option.map_eq_some_iff.mp hbeside
    obtain ⟨rfl, rfl⟩ := Prod.mk.inj heq
    exact hreveal

end GameStore

def Resolution.between (player opponent : Address) : Option Move → Option Move → Resolution
  | none, none => .abandoned
  | some _, none => .forfeit player
  | none, some _ => .forfeit opponent
  | some mine, some theirs =>
    if mine = theirs then .draw mine
    else if mine.beats theirs then .won player opponent mine theirs
    else .won opponent player theirs mine

lemma Move.beats_comm : ∀ m n : Move, m ≠ n → (m.beats n ↔ ¬ n.beats m) := by
  intro m n
  cases m <;> cases n <;> decide

lemma Resolution.between_comm (player opponent : Address) (mine theirs : Option Move) :
    between player opponent mine theirs = between opponent player theirs mine := by
  cases mine with
  | none => cases theirs <;> rfl
  | some m =>
    cases theirs with
    | none => rfl
    | some n =>
      simp only [between]
      by_cases he : m = n
      · simp [he]
      · by_cases hb : n.beats m <;> simp [he, Ne.symm he, Move.beats_comm m n he, hb]

def Move.share (fee : Nat) : Option Move → Option Move → Nat
  | none, none => fee
  | some _, none => 2 * fee
  | none, some _ => 0
  | some mine, some theirs => if mine = theirs then fee else if mine.beats theirs then 2 * fee else 0

namespace Settlement

structure Shares (s : Settlement) (fee : Nat) (player opponent : Address) (mine theirs : Option Move) : Prop where
  own : Payout.owed s.payouts player = Move.share fee mine theirs
  other : Payout.owed s.payouts opponent = Move.share fee theirs mine
  resolution : s.resolution = .between player opponent mine theirs

variable {s : Settlement} {fee : Nat} {player opponent : Address} {mine theirs : Option Move} {game : Game}
  {prize : Amount} {store : GameStore}

lemma Shares.symm (h : s.Shares fee player opponent mine theirs) : s.Shares fee opponent player theirs mine :=
  ⟨h.other, h.own, h.resolution.trans (Resolution.between_comm ..)⟩

lemma shares_showdown (hprize : prize.toNat = 2 * game.entryFee.toNat) (first second : Address × MoveReveal)
    (hne : first.1 ≠ second.1) :
    (showdown game prize first second).Shares game.entryFee.toNat first.1 second.1 (some first.2.move)
      (some second.2.move) := by
  have hne' := hne.symm
  by_cases he : first.2.move = second.2.move
  · constructor <;> simp [showdown, Move.against, he, Payout.owed, Move.share, Resolution.between, hne, hne']
  · have hcomm := Move.beats_comm _ _ he
    by_cases hb : second.2.move.beats first.2.move
    · constructor <;> simp [showdown, Move.against, he, Ne.symm he, hcomm, hb, Payout.owed, Payout.total, hprize,
        Move.share, Resolution.between, hne']
    · constructor <;> simp [showdown, Move.against, he, Ne.symm he, hcomm, hb, Payout.owed, Payout.total, hprize,
        Move.share, Resolution.between, hne]

lemma shares_joined (store : GameStore) (hprize : prize.toNat = 2 * game.entryFee.toNat) {a b : Address × MoveCommit}
    (hne : a.1 ≠ b.1) :
    (joined game prize [a, b] ([a, b].filterMap (store.revealBeside game.id))).Shares game.entryFee.toNat a.1 b.1
      (store.shown game.id a.1) (store.shown game.id b.1) := by
  have hne' := hne.symm
  cases ha : store.reveals.get? ⟨game.id, a.1⟩ with
  | none =>
    cases hb : store.reveals.get? ⟨game.id, b.1⟩ with
    | none =>
      constructor <;> simp [GameStore.revealBeside, GameStore.shown, ha, hb, joined, Payout.owed, Move.share,
        Resolution.between, hne, hne']
    | some rb =>
      constructor <;> simp [GameStore.revealBeside, GameStore.shown, ha, hb, joined, Payout.owed, hprize, Move.share,
        Resolution.between, hne']
  | some ra =>
    cases hb : store.reveals.get? ⟨game.id, b.1⟩ with
    | none =>
      constructor <;> simp [GameStore.revealBeside, GameStore.shown, ha, hb, joined, Payout.owed, hprize, Move.share,
        Resolution.between, hne]
    | some rb =>
      simpa [GameStore.revealBeside, GameStore.shown, ha, hb, joined] using
        shares_showdown hprize (a.1, ra) (b.1, rb) hne

structure FairTo (s : Settlement) (fee : Nat) (player opponent : Address) (mine theirs : Option Move) : Prop where
  refunded : mine = none → theirs = none → Payout.owed s.payouts player = fee ∧ Payout.owed s.payouts opponent = fee
  double : mine ≠ none ∨ theirs ≠ none →
    (Payout.owed s.payouts player = 2 * fee ↔ ∃ m, mine = some m ∧ ∀ n, theirs = some n → m.beats n)
  even : mine ≠ none ∨ theirs ≠ none →
    (Payout.owed s.payouts player = fee ↔ ∃ m, mine = some m ∧ theirs = some m)
  nothing : mine ≠ none ∨ theirs ≠ none →
    (Payout.owed s.payouts player = 0 ↔ ∃ n, theirs = some n ∧ ∀ m, mine = some m → n.beats m)
  abandoned : s.resolution = .abandoned ↔ mine = none ∧ theirs = none
  forfeit : s.resolution = .forfeit player ↔ mine ≠ none ∧ theirs = none
  won : ∀ m n, s.resolution = .won player opponent m n ↔ mine = some m ∧ theirs = some n ∧ m.beats n
  lost : ∀ m n, s.resolution = .won opponent player n m ↔ mine = some m ∧ theirs = some n ∧ n.beats m
  draw : ∀ m, s.resolution = .draw m ↔ mine = some m ∧ theirs = some m

lemma Shares.fairTo (hfee : 0 < fee) (hne : player ≠ opponent) (h : s.Shares fee player opponent mine theirs) :
    s.FairTo fee player opponent mine theirs := by
  obtain ⟨hown, hother, hresolution⟩ := h
  cases mine with
  | none =>
    cases theirs with
    | none => constructor <;> simp [hown, hother, hresolution, Move.share, Resolution.between]
    | some n => constructor <;> simp [hown, hresolution, Move.share, Resolution.between, hne.symm] <;> omega
  | some m =>
    cases theirs with
    | none => constructor <;> simp [hown, hresolution, Move.share, Resolution.between] <;> omega
    | some n =>
      by_cases he : m = n
      · have hself : n.beats n = false := by cases n <;> rfl
        subst he
        constructor <;> simp [hown, hresolution, Move.share, Resolution.between, hself] <;> omega
      · have hcomm := Move.beats_comm m n he
        by_cases hb : m.beats n
        · constructor <;> simp only [hown, hresolution, Move.share, Resolution.between, he, hb, if_true, if_false] <;>
            grind
        · constructor <;> simp only [hown, hresolution, Move.share, Resolution.between, he, hb, if_false] <;> grind

variable [AddressCodec κ] {codec : κ}

lemma owed_unjoined (game : Game) (c : Address × MoveCommit) :
    Payout.owed (unjoined game [c]).payouts c.1 = game.entryFee.toNat := by
  simp [unjoined, Payout.owed]

lemma shares_of_commit (h : store.WellFormed codec) (full : store.commitCount game.id = 2)
    (hprize : prize.toNat = 2 * game.entryFee.toNat) {commit : MoveCommit}
    (committed : store.commit? game.id player = some commit) :
    ∃ opponent, opponent ≠ player ∧
      (∀ other, (∃ c, store.commit? game.id other = some c) ↔ other = player ∨ other = opponent) ∧
      (joined game prize (store.commitsOf game.id) (store.revealsOf game.id)).Shares game.entryFee.toNat player opponent
        (store.shown game.id player) (store.shown game.id opponent) := by
  obtain ⟨a, b, hab⟩ := List.length_eq_two.mp full
  have hne : a.1 ≠ b.1 := by
    have hnodup := GameStore.ofGame_players_nodup store.commits game.id
    rw [← GameStore.commitsOf, hab] at hnodup
    simpa using hnodup
  have hstored : ∀ other, (∃ c, store.commit? game.id other = some c) ↔ other = a.1 ∨ other = b.1 := by
    intro other
    have hmem : ∀ c, store.commit? game.id other = some c ↔ (other, c) ∈ [a, b] := fun c =>
      hab ▸ GameStore.mem_ofGame.symm
    simp only [hmem, List.mem_cons, List.not_mem_nil, or_false, Prod.ext_iff, exists_or, exists_and_left, exists_eq,
      and_true]
  have hshares := shares_joined store hprize hne
  rw [h.revealsOf_eq, hab]
  -- The player stands first or second among the addresses, and the opponent is the other one.
  rcases (hstored player).mp ⟨commit, committed⟩ with rfl | rfl
  · exact ⟨b.1, hne.symm, hstored, hshares⟩
  · exact ⟨a.1, hne, fun other => (hstored other).trans or_comm, hshares.symm⟩

lemma fairTo_joined (h : store.WellFormed codec) (stored : store.game? game.id = some game)
    (full : store.commitCount game.id = 2) (hprize : prize.toNat = 2 * game.entryFee.toNat) {commit : MoveCommit}
    (committed : store.commit? game.id player = some commit) :
    ∃ opponent, opponent ≠ player ∧ (∃ c, store.commit? game.id opponent = some c) ∧
      (joined game prize (store.commitsOf game.id) (store.revealsOf game.id)).FairTo game.entryFee.toNat player opponent
        (store.shown game.id player) (store.shown game.id opponent) := by
  obtain ⟨opponent, hne, hplayers, hshares⟩ := shares_of_commit h full hprize committed
  exact ⟨opponent, hne, (hplayers opponent).mpr (.inr rfl), hshares.fairTo (h.feePositive stored) hne.symm⟩

/-- A due game pays its only player the fee back, and otherwise shares both stakes between its two players. -/
theorem fair_shares {κ : Type} [AddressCodec κ] {keeper : Keeper κ} (reachable : keeper.Reachable) {now : Instant}
    {id : GameId} {game : Game} {s : Settlement} (stored : keeper.store.game? id = some game)
    (due : plan now keeper.store game = .ok (some s)) {player : Address} {commit : MoveCommit}
    (committed : keeper.store.commit? id player = some commit) :
    (keeper.store.commitCount id = 1 ∧ s.resolution = .refunded player ∧
        Payout.owed s.payouts player = game.entryFee.toNat) ∨
      (keeper.store.commitCount id = 2 ∧ ∃ opponent, opponent ≠ player ∧
        (∃ c, keeper.store.commit? id opponent = some c) ∧
        s.FairTo game.entryFee.toNat player opponent (keeper.store.shown id player)
          (keeper.store.shown id opponent)) := by
  have hstore := reachable.wellFormed
  obtain rfl := hstore.ownId stored
  have hcount := hstore.oneOrTwo stored
  rcases plan_eq_some_iff.mp due with ⟨hfew, _, rfl⟩ | ⟨hmany, deadline, prize, _, _, hprize, rfl⟩
  · have hone : keeper.store.commitCount game.id = 1 := by
      rw [maxPlayers] at hfew
      omega
    obtain ⟨c, hc⟩ := List.length_eq_one_iff.mp hone
    have hmem : (player, commit) ∈ keeper.store.commitsOf game.id := GameStore.mem_ofGame.mpr committed
    rw [hc, List.mem_singleton] at hmem
    rw [hc, ← hmem]
    exact Or.inl ⟨hone, rfl, owed_unjoined game (player, commit)⟩
  · have htwo : keeper.store.commitCount game.id = 2 := by
      rw [maxPlayers] at hmany
      omega
    exact Or.inr ⟨htwo, fairTo_joined hstore stored htwo (prize_toNat hprize) committed⟩

end Settlement

namespace Sample

def shownState : GenesisState :=
  { state with reveals := [⟨0, "rps1qgzffsc2", ⟨.paper, "s", .epoch⟩⟩, ⟨0, "rps1qynh06fd", ⟨.rock, "", .epoch⟩⟩] }

def shown : Keeper Bech32Codec :=
  { loaded with
    store := (loaded.store.setReveal 0 ⟨[2]⟩ ⟨.paper, "s", .epoch⟩).setReveal 0 ⟨[1]⟩ ⟨.rock, "", .epoch⟩ }

def duel : Settlement := ⟨0, .won ⟨[2]⟩ ⟨[1]⟩ .paper .rock, [⟨⟨[2]⟩, ⟨10⟩⟩]⟩

lemma load_shownState : fresh.initGenesis shownState = .ok shown := by decide +kernel

end Sample

theorem Settlement.fair_shares_shown :
    ∃ opponent, opponent ≠ ⟨[1]⟩ ∧
      Sample.duel.FairTo 5 ⟨[1]⟩ opponent (some .rock) (Sample.shown.store.shown 0 opponent) := by
  have reachable : Sample.shown.Reachable := .load (.new Sample.new_fresh) Sample.load_shownState
  have stored : Sample.shown.store.game? 0 = some ⟨0, ⟨5⟩, .epoch, some .epoch⟩ := by decide +kernel
  have due : plan .epoch Sample.shown.store ⟨0, ⟨5⟩, .epoch, some .epoch⟩ = .ok (some Sample.duel) := by
    decide +kernel
  have committed : Sample.shown.store.commit? 0 ⟨[1]⟩ = some ⟨⟨"x"⟩, .epoch⟩ := by decide +kernel
  rcases fair_shares reachable stored due committed with ⟨hone, _⟩ | ⟨_, opponent, hne, _, hfair⟩
  · exact absurd hone (by decide +kernel)
  · exact ⟨opponent, hne, hfair⟩

end Roshambo
