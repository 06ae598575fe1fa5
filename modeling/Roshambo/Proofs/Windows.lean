import Roshambo.Proofs.Completion
import Roshambo.Proofs.Fairness
import Roshambo.Proofs.Independence
import Roshambo.Proofs.Restarts

/-! The window to join a game ends where its refund begins. The window to reveal overlaps with the forfeit in one
instant, and a reveal that is made then counts. -/

namespace Roshambo

variable {κ β α : Type}

namespace GameStore

variable {store : GameStore} {id : GameId} {player : Address}

lemma hasCommit_iff : store.hasCommit id player ↔ player ∈ (store.commitsOf id).map (·.1) := by
  have hmem : ∀ c, (player, c) ∈ store.commitsOf id ↔ store.commits.get? ⟨id, player⟩ = some c := fun c => mem_ofGame
  simp [hasCommit, SortedMap.contains, Option.isSome_iff_exists, hmem]

lemma hasReveal_iff : store.hasReveal id player ↔ player ∈ (store.revealsOf id).map (·.1) := by
  have hmem : ∀ r, (player, r) ∈ store.revealsOf id ↔ store.reveals.get? ⟨id, player⟩ = some r := fun r => mem_ofGame
  simp [hasReveal, SortedMap.contains, Option.isSome_iff_exists, hmem]

lemma commitCount_lt_of_one {c : Address × MoveCommit} (one : store.commitsOf id = [c]) :
    store.commitCount id < maxPlayers := by
  rw [commitCount, one]
  exact Nat.lt_succ_self 1

lemma revealCount_lt_of_one {r : Address × MoveReveal} (one : store.revealsOf id = [r]) :
    store.revealCount id < maxPlayers := by
  rw [revealCount, one]
  exact Nat.lt_succ_self 1

lemma WellFormed.full_of_opened [AddressCodec κ] {codec : κ} (h : store.WellFormed codec) {game : Game}
    (stored : store.game? id = some game) {deadline : Instant} (opened : game.revealDeadline = some deadline) :
    store.commitCount id = maxPlayers :=
  h.deadlineOfFull stored (opened ▸ Option.some_ne_none deadline)

end GameStore

lemma Game.revealClosed_iff {game : Game} {now deadline : Instant} (opened : game.revealDeadline = some deadline) :
    game.revealClosed now ↔ deadline < now := by
  rw [revealClosed, opened, Option.any_some, decide_eq_true_iff]

namespace Settlement

variable {now deadline : Instant} {store : GameStore} {game : Game} {creator revealer player opponent : Address}
  {mine theirs : Move}

def Refunds (now : Instant) (store : GameStore) (game : Game) (creator : Address) : Prop :=
  plan now store game = .ok (some ⟨game.id, .refunded creator, [⟨creator, game.entryFee⟩]⟩)

def Forfeits (now : Instant) (store : GameStore) (game : Game) (winner : Address) : Prop :=
  ∃ prize : Amount, prize.toNat = 2 * game.entryFee.toNat ∧
    plan now store game = .ok (some ⟨game.id, .forfeit winner, [⟨winner, prize⟩]⟩)

lemma refunds_iff {commit : MoveCommit} (alone : store.commitsOf game.id = [(creator, commit)]) :
    Refunds now store game creator ↔ game.commitDeadline < now := by
  have few := GameStore.commitCount_lt_of_one alone
  constructor
  · intro refunds
    by_contra within
    cases refunds.symm.trans (plan_of_waits ((waits_iff_of_few few).mpr within))
  · intro late
    rw [Refunds, plan_of_not_waits fun waits => (waits_iff_of_few few).mp waits late, ending, if_pos few, alone]
    rfl

variable [AddressCodec κ] {codec : κ}

lemma prize_of_wellFormed (h : store.WellFormed codec) (stored : store.game? game.id = some game) :
    ∃ prize, game.prize? = some prize ∧ prize.toNat = 2 * game.entryFee.toNat := by
  obtain ⟨prize, hprize⟩ := Amount.exists_toNat (h.prizeFits stored)
  refine ⟨prize, ?_, hprize⟩
  rw [Game.prize?, Amount.times?_eq_some_iff, hprize, maxPlayers, Nat.mul_comm]

lemma forfeits_iff (h : store.WellFormed codec) (stored : store.game? game.id = some game)
    (opened : game.revealDeadline = some deadline) {reveal : MoveReveal}
    (one : store.revealsOf game.id = [(revealer, reveal)]) :
    Forfeits now store game revealer ↔ deadline ≤ now := by
  have full := h.full_of_opened stored opened
  have waits_iff : Waits now store game ↔ now < deadline :=
    (waits_iff_of_opened full.ge opened).trans (and_iff_right (GameStore.revealCount_lt_of_one one))
  constructor
  · rintro ⟨prize, _, forfeits⟩ early
    cases forfeits.symm.trans (plan_of_waits (waits_iff.mpr early))
  · intro late
    obtain ⟨prize, hprize, hvalue⟩ := prize_of_wellFormed h stored
    refine ⟨prize, hvalue, ?_⟩
    rw [plan_of_not_waits fun waits => late (waits_iff.mp waits), ending, if_neg full.ge.not_gt, hprize, one]
    rfl

lemma Shares.ne_forfeit {s : Settlement} {fee : Nat} (h : s.Shares fee player opponent (some mine) (some theirs))
    (winner : Address) : s.resolution ≠ .forfeit winner := by
  rw [h.resolution, Resolution.between]
  split_ifs <;> exact Resolution.noConfusion

lemma plan_of_both (h : store.WellFormed codec) (stored : store.game? game.id = some game) (hne : player ≠ opponent)
    (hmine : store.shown game.id player = some mine) (htheirs : store.shown game.id opponent = some theirs)
    (now : Instant) :
    ∃ s, plan now store game = .ok (some s) ∧
      s.Shares game.entryFee.toNat player opponent (some mine) (some theirs) := by
  obtain ⟨reveal, hreveal, -⟩ := Option.map_eq_some_iff.mp hmine
  obtain ⟨reveal', hreveal', -⟩ := Option.map_eq_some_iff.mp htheirs
  obtain ⟨commit, hcommit⟩ := h.revealOfCommit hreveal
  obtain ⟨commit', hcommit'⟩ := h.revealOfCommit hreveal'
  obtain ⟨deadline, opened⟩ := Option.ne_none_iff_exists'.mp (h.deadlineOfReveal hreveal stored)
  have full := h.full_of_opened stored opened
  have two : maxPlayers ≤ store.revealCount game.id := by
    have hdistinct : [(player, reveal), (opponent, reveal')].Nodup := by simp [hne]
    refine (List.subperm_of_subset hdistinct fun r hr => ?_).length_le
    rcases List.mem_pair.mp hr with rfl | rfl
    · exact GameStore.mem_ofGame.mpr hreveal
    · exact GameStore.mem_ofGame.mpr hreveal'
  obtain ⟨prize, hprize, hvalue⟩ := prize_of_wellFormed h stored
  obtain ⟨other, _, hplayers, hshares⟩ := shares_of_commit h full hvalue hcommit
  obtain rfl := ((hplayers opponent).mp ⟨commit', hcommit'⟩).resolve_left hne.symm
  rw [hmine, htheirs] at hshares
  refine ⟨_, ?_, hshares⟩
  have due : ¬ Waits now store game := fun waits =>
    two.not_gt ((waits_iff_of_opened full.ge opened).mp waits).1
  rw [plan_of_not_waits due, ending, if_neg full.ge.not_gt, hprize]
  rfl

end Settlement

variable [AddressCodec κ] {keeper : Keeper κ} {id : GameId} {game : Game}

namespace Keeper

structure Vacant (keeper : Keeper κ) (id : GameId) (game : Game) (creator joiner : Address) (text : String) : Prop where
  stored : keeper.store.game? id = some game
  alone : ∃ commit, keeper.store.commitsOf id = [(creator, commit)]
  decodes : AddressCodec.decode keeper.codec text = .ok joiner
  other : joiner ≠ creator

/-- The one commitment of a game that is not open yet, and what opens it. Both players of the game have committed: it
would have no reveal deadline otherwise. -/
structure Unopened (keeper : Keeper κ) (id : GameId) (game : Game) (deadline : Instant) (revealer player : Address)
    (first second : Move) (text label salt : String) : Prop where
  stored : keeper.store.game? id = some game
  opened : game.revealDeadline = some deadline
  one : ∃ reveal, keeper.store.revealsOf id = [(revealer, reveal)] ∧ reveal.move = first
  decodes : AddressCodec.decode keeper.codec text = .ok player
  other : player ≠ revealer
  labelled : Move.ofLabel? label = some second
  opens : ∃ commit, keeper.store.commit? id player = some commit ∧ commit.commitment.opensTo second salt

end Keeper

namespace Transaction

variable {block : Block} {creator joiner revealer player : Address} {first second : Move}
  {text label salt : String} {deadline : Instant} {commitment : Commitment}

def Passes (tx : Transaction κ β α) (ledger : Ledger κ β) : Prop := ∃ a next, tx ledger = .ok a next

lemma commitMove_passes_iff (vacant : keeper.Vacant id game creator joiner text) {bank : Accounts}
    (funds : game.entryFee ≤ bank.balance joiner) (fits : bank.pool.toNat + game.entryFee.toNat < UInt64.size) :
    Passes (commitMove block id text commitment) ⟨keeper, bank⟩ ↔ block.time ≤ game.commitDeadline := by
  obtain ⟨commit, alone⟩ := vacant.alone
  have few := GameStore.commitCount_lt_of_one alone
  have fresh : ¬ keeper.store.hasCommit id joiner := by
    rw [GameStore.hasCommit_iff, alone]
    simpa using vacant.other
  have hresolve : keeper.resolve text = .ok joiner := Keeper.resolve_eq_ok_iff.mpr vacant.decodes
  constructor
  · rintro ⟨_, next, accepted⟩
    obtain ⟨_, _, _, admitted, _⟩ := commitMove_eq_ok accepted
    obtain ⟨_, game', stored, _, hopen, _⟩ := Keeper.admitCommit_eq_ok_iff.mp admitted
    obtain rfl := Option.some.inj (vacant.stored.symm.trans stored)
    exact Game.commitClosed_iff.not.mp hopen
  · intro within
    have hopen : ¬ game.commitClosed block.time := Game.commitClosed_iff.not.mpr within
    have admitted : keeper.admitCommit block.time id text = .ok (joiner, game.entryFee) :=
      Keeper.admitCommit_eq_ok_iff.mpr ⟨hresolve, game, vacant.stored, few, hopen, fresh, rfl⟩
    obtain ⟨after, staked⟩ := Accounts.deposit_of_fit (Amount.le_iff.mp funds) fits
    have staked : Bank.deposit bank joiner game.entryFee = .ok after := staked
    simp only [Passes, commitMove_eq, admitted, staked]
    exact ⟨_, _, rfl⟩

lemma revealMove_of_unopened {ledger : Ledger κ β} (h : ledger.keeper.store.WellFormed ledger.keeper.codec)
    (unopened : ledger.keeper.Unopened id game deadline revealer player first second text label salt)
    (within : block.time ≤ deadline) :
    revealMove block id text label salt ledger =
      .ok () (ledger.withStore (ledger.keeper.store.setReveal id player ⟨second, salt, block.time⟩)) := by
  obtain ⟨commit, committed, opens⟩ := unopened.opens
  obtain ⟨reveal, one, _⟩ := unopened.one
  have full := h.full_of_opened unopened.stored unopened.opened
  have fresh : ¬ ledger.keeper.store.hasReveal id player := by
    rw [GameStore.hasReveal_iff, one]
    simpa using unopened.other
  have hopen : ¬ game.revealClosed block.time := (Game.revealClosed_iff unopened.opened).not.mpr within
  have admitted : ledger.keeper.admitReveal block.time id text label salt = .ok (player, second, game) :=
    Keeper.admitReveal_eq_ok_iff.mpr ⟨Keeper.resolve_eq_ok_iff.mpr unopened.decodes, unopened.labelled,
      unopened.stored, hopen, commit, committed, full, fresh, opens⟩
  simp only [revealMove_eq, admitted, unopened.opened]

lemma revealMove_late {ledger : Ledger κ β}
    (unopened : ledger.keeper.Unopened id game deadline revealer player first second text label salt)
    (late : deadline < block.time) :
    revealMove block id text label salt ledger = .error (.revealWindowClosed id) ledger := by
  have hclosed : game.revealClosed block.time := (Game.revealClosed_iff unopened.opened).mpr late
  have refused : ledger.keeper.admitReveal block.time id text label salt = .error (.revealWindowClosed id) := by
    simp only [Keeper.admitReveal, Keeper.resolve_eq_ok_iff.mpr unopened.decodes, ok_bind, unopened.labelled,
      Keeper.findGame_eq_ok_iff.mpr unopened.stored, if_pos hclosed]
    rfl
  simp only [revealMove_eq, refused]

lemma revealMove_passes_iff {ledger : Ledger κ β} (h : ledger.keeper.store.WellFormed ledger.keeper.codec)
    (unopened : ledger.keeper.Unopened id game deadline revealer player first second text label salt) :
    Passes (revealMove block id text label salt) ledger ↔ block.time ≤ deadline := by
  constructor
  · rintro ⟨_, next, accepted⟩ late
    cases (revealMove_late unopened late).symm.trans accepted
  · exact fun within => ⟨_, _, revealMove_of_unopened h unopened within⟩

lemma plan_of_unopened {ledger next : Ledger κ β} (h : ledger.keeper.store.WellFormed ledger.keeper.codec)
    (unopened : ledger.keeper.Unopened id game deadline revealer player first second text label salt)
    (accepted : revealMove block id text label salt ledger = .ok () next) :
    ∃ s, Settlement.plan block.time next.keeper.store game = .ok (some s) ∧ s.game = id ∧
      Settlement.Due block.time next.keeper.store s ∧
      s.Shares game.entryFee.toNat revealer player (some first) (some second) := by
  have within := (revealMove_passes_iff h unopened).mp ⟨_, _, accepted⟩
  cases accepted.symm.trans (revealMove_of_unopened h unopened within)
  obtain ⟨commit, committed, _⟩ := unopened.opens
  obtain ⟨reveal, one, rfl⟩ := unopened.one
  have stored : (ledger.keeper.store.setReveal id player ⟨second, salt, block.time⟩).game? id = some game :=
    unopened.stored
  obtain rfl := h.ownId unopened.stored
  have hfirst : ledger.keeper.store.reveals.get? ⟨game.id, revealer⟩ = some reveal :=
    GameStore.mem_ofGame.mp
      (one ▸ List.mem_singleton_self _ : (revealer, reveal) ∈ ledger.keeper.store.revealsOf game.id)
  have wellFormed : (ledger.keeper.store.setReveal game.id player ⟨second, salt, block.time⟩).WellFormed
      ledger.keeper.codec :=
    h.reveal unopened.stored (unopened.opened ▸ Option.some_ne_none deadline) committed
  have hseat : (⟨game.id, revealer⟩ : Seat) ≠ ⟨game.id, player⟩ := fun he => unopened.other (Seat.mk.inj he).2.symm
  have hmine : (ledger.keeper.store.setReveal game.id player ⟨second, salt, block.time⟩).shown game.id revealer =
      some reveal.move := by
    rw [GameStore.shown, GameStore.reveals_setReveal, SortedMap.get?_insert, if_neg hseat, hfirst]
    rfl
  have htheirs : (ledger.keeper.store.setReveal game.id player ⟨second, salt, block.time⟩).shown game.id player =
      some second := by
    rw [GameStore.shown, GameStore.reveals_setReveal, SortedMap.get?_insert, if_pos rfl]
    rfl
  obtain ⟨s, hplan, hshares⟩ :=
    Settlement.plan_of_both wellFormed stored unopened.other.symm hmine htheirs block.time
  have hgame := Settlement.plan_game hplan
  exact ⟨s, hplan, hgame, ⟨game, hgame ▸ stored, hplan⟩, hshares⟩

end Transaction

namespace Node

variable {node : Node} {time : Instant} {header : Block} {text label salt : String}

lemma deliver_reveal (reachable : node.keeper.Reachable) (due : node.last.next time = .ok header)
    {next : Ledger Bech32Codec Accounts}
    (accepted : Transaction.revealMove header id text label salt node.ledger = .ok () next) :
    next.keeper.Reachable ∧ ∃ after, deliver time (fun block => Transaction.revealMove block id text label salt) node =
      .ok ⟨header, (), (Transaction.endRound header).answer next⟩ after := by
  have hnext : (Transaction.revealMove header id text label salt).after node.ledger = next := by
    rw [Transaction.after, accepted]
  have hanswer : (Transaction.revealMove header id text label salt).answer node.ledger = .ok () :=
    Transaction.answer_eq_ok_iff.mpr ⟨next, accepted⟩
  have hreveal : next.keeper.Reachable :=
    hnext ▸ reachable.call (.revealMove header id text label salt) node.ledger.bank
  have hround : ((Transaction.endRound header).after next).keeper.Reachable :=
    hreveal.call (.endRound header) next.bank
  obtain ⟨state, hstate, _⟩ := Keeper.exportGenesis_valid hround.params_valid hround.wellFormed
  have hexport : (Node.mk header ((Transaction.endRound header).after next) node.database).keeper.exportGenesis =
    .ok state := hstate
  refine ⟨hreveal, ?_⟩
  simp only [deliver_eq, due, hanswer, hnext, persist_eq, hexport]
  exact ⟨_, rfl⟩

end Node

/-- Whoever may join a game keeps its creator from a refund until the deadline, and not for an instant longer. Whoever
may answer a reveal has until the deadline too, from which on the game may be settled without the answer; one that is
made at the deadline, in a block of its own, still counts in the settlement of that block. -/
theorem Keeper.windows_meet :
    (∀ {κ : Type} [AddressCodec κ] {keeper : Keeper κ} {id : GameId} {game : Game}, keeper.Reachable →
      (∀ {creator joiner : Address} {text : String}, keeper.Vacant id game creator joiner text →
        ∀ bank : Accounts, game.entryFee ≤ bank.balance joiner → bank.pool.toNat + game.entryFee.toNat < UInt64.size →
          ∀ (block : Block) (commitment : Commitment),
            ((Transaction.commitMove block id text commitment).Passes ⟨keeper, bank⟩ ↔
              block.time ≤ game.commitDeadline) ∧
            (Settlement.Refunds block.time keeper.store game creator ↔ game.commitDeadline < block.time) ∧
            ((Transaction.commitMove block id text commitment).Passes ⟨keeper, bank⟩ ↔
              ¬ Settlement.Refunds block.time keeper.store game creator)) ∧
      ∀ {deadline : Instant} {revealer player : Address} {first second : Move} {text label salt : String},
        keeper.Unopened id game deadline revealer player first second text label salt →
        ∀ {β : Type} [Bank β] (bank : β) (block : Block),
          ((Transaction.revealMove block id text label salt).Passes ⟨keeper, bank⟩ ↔ block.time ≤ deadline) ∧
          (deadline < block.time → Transaction.revealMove block id text label salt ⟨keeper, bank⟩ =
            .error (.revealWindowClosed id) ⟨keeper, bank⟩) ∧
          (Settlement.Forfeits block.time keeper.store game revealer ↔ deadline ≤ block.time) ∧
          ((Transaction.revealMove block id text label salt).Passes ⟨keeper, bank⟩ ∨
            Settlement.Forfeits block.time keeper.store game revealer) ∧
          ((Transaction.revealMove block id text label salt).Passes ⟨keeper, bank⟩ ∧
            Settlement.Forfeits block.time keeper.store game revealer ↔ block.time = deadline)) ∧
    ∀ {node : Node} {id : GameId} {game : Game} {deadline : Instant} {revealer player : Address} {first second : Move}
      {text label salt : String} {header : Block}, node.keeper.Reachable →
      node.keeper.Unopened id game deadline revealer player first second text label salt →
      node.last.next deadline = .ok header →
        ∃ (next : Ledger Bech32Codec Accounts) (after : Node) (s : Settlement),
          Transaction.revealMove header id text label salt node.ledger = .ok () next ∧
          node.deliver deadline (fun block => Transaction.revealMove block id text label salt) =
            .ok ⟨header, (), (Transaction.endRound header).answer next⟩ after ∧
          Settlement.plan deadline next.keeper.store game = .ok (some s) ∧
          s.Shares game.entryFee.toNat revealer player (some first) (some second) ∧
          (∀ winner, s.resolution ≠ .forfeit winner) ∧
          (∃ left planned, Settlement.sweep deadline next.keeper.store = .ok (left, planned) ∧ s ∈ planned) ∧
          ∀ report, (Transaction.endRound header).answer next = .ok report →
            (s ∈ report.settled ∨ id ∈ report.deferred) ∧ ∀ t ∈ report.settled, t.game = id → t = s := by
  constructor
  · intro κ _ keeper id game reachable
    have h := reachable.wellFormed
    constructor
    · intro creator joiner text vacant bank funds fits block commitment
      obtain rfl := h.ownId vacant.stored
      obtain ⟨commit, alone⟩ := vacant.alone
      have passes : (Transaction.commitMove block game.id text commitment).Passes ⟨keeper, bank⟩ ↔
          block.time ≤ game.commitDeadline := Transaction.commitMove_passes_iff vacant funds fits
      have refunds : Settlement.Refunds block.time keeper.store game creator ↔ game.commitDeadline < block.time :=
        Settlement.refunds_iff alone
      exact ⟨passes, refunds, passes.trans refunds.not.symm⟩
    · intro deadline revealer player first second text label salt unopened β _ bank block
      obtain rfl := h.ownId unopened.stored
      obtain ⟨reveal, one, _⟩ := unopened.one
      have passes : (Transaction.revealMove block game.id text label salt).Passes ⟨keeper, bank⟩ ↔
          block.time ≤ deadline := Transaction.revealMove_passes_iff h unopened
      have forfeits : Settlement.Forfeits block.time keeper.store game revealer ↔ deadline ≤ block.time :=
        Settlement.forfeits_iff h unopened.stored unopened.opened one
      refine ⟨passes, Transaction.revealMove_late unopened, forfeits, ?_, ?_⟩ <;> rw [passes, forfeits]
      · exact (em (deadline < block.time)).symm.imp_right Instant.le_of_lt
      · constructor
        · exact fun ⟨within, late⟩ => Instant.le_antisymm within late
        · rintro rfl
          exact ⟨Instant.le_refl _, Instant.le_refl _⟩
  · intro node id game deadline revealer player first second text label salt header reachable unopened due
    obtain ⟨_, _, rfl⟩ := Block.next_eq_ok due
    obtain ⟨_, next, accepted⟩ : (Transaction.revealMove header id text label salt).Passes node.ledger :=
      (Transaction.revealMove_passes_iff reachable.wellFormed unopened).mpr (Instant.le_refl _)
    obtain ⟨reachable', after, delivered⟩ := Node.deliver_reveal reachable due accepted
    obtain ⟨s, hplan, rfl, hdue, hshares⟩ := Transaction.plan_of_unopened reachable.wellFormed unopened accepted
    obtain ⟨planned, swept, hmem, _⟩ := Settlement.exists_sweep reachable'.wellFormed header.time
    refine ⟨next, after, s, accepted, delivered, hplan, hshares, hshares.ne_forfeit,
      ⟨_, planned, swept, (hmem s).mpr hdue⟩, fun report answered => ?_⟩
    obtain ⟨final, hround⟩ := Transaction.answer_eq_ok_iff.mp answered
    have ownIds : next.keeper.store.OwnIds := fun _ _ => reachable'.wellFormed.ownId
    exact Transaction.endRound_due ownIds hdue hround

namespace Sample

def answered : Keeper Bech32Codec :=
  paired.after [⟨.revealMove third 0 "rps1qvdrtkhs" "rock" ":", ledger.bank⟩]

def dueTime : Instant := ⟨120, 0, by decide, by decide⟩

def answeredGame : Game := { waitingGame with revealDeadline := some dueTime }

def vacantGame : Game := { waitingGame with id := 1 }

lemma answered_reachable : answered.Reachable := (Keeper.Reachable.new new_fresh).after _ |>.after _

lemma answered_vacant : answered.Vacant 1 vacantGame ⟨[3]⟩ ⟨[1]⟩ "rps1qynh06fd" where
  stored := by decide +kernel
  alone := ⟨⟨⟨"z"⟩, .epoch⟩, by decide +kernel⟩
  decodes := by decide +kernel
  other := by decide

lemma answered_unopened :
    answered.Unopened 0 answeredGame dueTime ⟨[3]⟩ ⟨[1]⟩ .rock .paper "rps1qynh06fd" "paper" "s" where
  stored := by decide +kernel
  opened := rfl
  one := ⟨⟨.rock, ":", waitingGame.commitDeadline⟩, by decide +kernel, rfl⟩
  decodes := by decide +kernel
  other := by decide
  labelled := by decide +kernel
  opens := ⟨⟨.of .paper "s", waitingGame.commitDeadline⟩, by decide +kernel, by decide +kernel⟩

def answeredNode : Node := ⟨third, ⟨answered, purse.bank⟩, .empty⟩

lemma keeper_answeredNode : answeredNode.keeper = answered := by rw [Node.keeper, answeredNode]

end Sample

theorem Keeper.windows_meet_answered :
    (Transaction.commitMove Sample.third 1 "rps1qynh06fd" ⟨"w"⟩).Passes ⟨Sample.answered, Sample.purse.bank⟩ ∧
    ¬ Settlement.Refunds Sample.third.time Sample.answered.store Sample.vacantGame ⟨[3]⟩ ∧
    (Transaction.revealMove ⟨4, Sample.dueTime⟩ 0 "rps1qynh06fd" "paper" "s").Passes
      ⟨Sample.answered, Sample.purse.bank⟩ ∧
    Settlement.Forfeits Sample.dueTime Sample.answered.store Sample.answeredGame ⟨[3]⟩ ∧
    ∃ (next : Ledger Bech32Codec Accounts) (after : Node), Sample.answeredNode.deliver Sample.dueTime
        (fun block => Transaction.revealMove block 0 "rps1qynh06fd" "paper" "s") =
          .ok ⟨⟨4, Sample.dueTime⟩, (), (Transaction.endRound ⟨4, Sample.dueTime⟩).answer next⟩ after ∧
      ∃ s, Settlement.plan Sample.dueTime next.keeper.store Sample.answeredGame = .ok (some s) ∧
        s.resolution = .won ⟨[1]⟩ ⟨[3]⟩ .paper .rock := by
  have funds : Sample.vacantGame.entryFee ≤ Sample.purse.bank.balance ⟨[1]⟩ := by decide +kernel
  have fits : Sample.purse.bank.pool.toNat + Sample.vacantGame.entryFee.toNat < UInt64.size := by decide +kernel
  have due : Sample.answeredNode.last.next Sample.dueTime = .ok ⟨4, Sample.dueTime⟩ := by decide +kernel
  obtain ⟨joins, _⟩ := windows_meet.1 Sample.answered_reachable
  obtain ⟨_, answers⟩ := windows_meet.1 Sample.answered_reachable
  have reachable : Sample.answeredNode.keeper.Reachable := Sample.keeper_answeredNode ▸ Sample.answered_reachable
  have unopened : Sample.answeredNode.keeper.Unopened 0 Sample.answeredGame Sample.dueTime ⟨[3]⟩ ⟨[1]⟩ .rock .paper
      "rps1qynh06fd" "paper" "s" := Sample.keeper_answeredNode ▸ Sample.answered_unopened
  obtain ⟨passes, _, apart⟩ := joins Sample.answered_vacant Sample.purse.bank funds fits Sample.third ⟨"w"⟩
  have joined := passes.mpr (Instant.le_refl _)
  obtain ⟨_, _, _, _, both⟩ := answers Sample.answered_unopened Sample.purse.bank ⟨4, Sample.dueTime⟩
  obtain ⟨revealed, forfeited⟩ := both.mpr rfl
  obtain ⟨next, after, s, _, delivered, hplan, hshares, _⟩ := windows_meet.2 reachable unopened due
  exact ⟨joined, apart.mp joined, revealed, forfeited, next, after, delivered, s, hplan, hshares.resolution⟩

end Roshambo
