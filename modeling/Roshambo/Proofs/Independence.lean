import Roshambo.Proofs.Atomicity
import Roshambo.Proofs.Batches
import Roshambo.Proofs.Chronology
import Roshambo.Proofs.Deeds

/-! Two calls about different games, or two reveals in one game, meet in the pool and in the balance of a player only;
whichever comes first, the ledger is the same in the end. -/

namespace Roshambo

namespace Accounts

variable {accounts middle after : Accounts} {payer other : Address} {amount amount' : Amount}

lemma deposit_of_fit (funds : amount.toNat ≤ (accounts.balance payer).toNat)
    (fits : accounts.pool.toNat + amount.toNat < UInt64.size) : ∃ after, accounts.deposit payer amount = .ok after := by
  obtain ⟨pool, hpool⟩ := Amount.exists_toNat fits
  cases hsub : (accounts.balance payer).sub? amount with
  | none =>
    rw [Amount.sub?_eq_none_iff] at hsub
    omega
  | some remaining =>
    refine ⟨{ accounts with pool := pool, balances := accounts.balances.insert payer remaining }, ?_⟩
    simp only [deposit, hsub, Amount.add?_eq_some_iff.mpr hpool, orOverflow, ok_bind]
    rfl

def debitOf (payer : Address) (amount : Amount) (address : Address) : Nat :=
  if address = payer then amount.toNat else 0

lemma Charged.balance (charged : accounts.Charged after payer amount) (address : Address) :
    (accounts.balance address).toNat = (after.balance address).toNat + debitOf payer amount address := by
  rw [debitOf]
  split
  · rename_i haddress
    rw [haddress, charged.debit]
  · rename_i haddress
    rw [charged.others address haddress, Nat.add_zero]

lemma listed_deposit (h : accounts.deposit payer amount = .ok after) (address : Address) :
    (after.balances.get? address).isSome ↔ (accounts.balances.get? address).isSome ∨ address = payer := by
  obtain ⟨remaining, _, _, hafter⟩ := deposit_eq_ok h
  rw [hafter, SortedMap.get?_insert]
  by_cases haddress : address = payer <;> simp [haddress]

lemma Charged.unique {after' : Accounts} (charged : accounts.Charged after payer amount)
    (charged' : accounts.Charged after' payer amount)
    (listed : ∀ address, (after.balances.get? address).isSome ↔ (after'.balances.get? address).isSome) :
    after = after' := by
  have hpool : after.pool = after'.pool := Amount.toNat_inj.mp (charged.pool.trans charged'.pool.symm)
  have hbalances : after.balances = after'.balances := by
    refine balances_ext listed fun address => ?_
    have h := charged.balance address
    have h' := charged'.balance address
    change (after.balance address).toNat = (after'.balance address).toNat
    omega
  cases after
  cases after'
  simp only [Accounts.mk.injEq]
  exact ⟨charged.owner.trans charged'.owner.symm, hpool, hbalances⟩

lemma deposit_eq_ok_iff : accounts.deposit payer amount = .ok after ↔ accounts.Charged after payer amount ∧
    ∀ address, (after.balances.get? address).isSome ↔ (accounts.balances.get? address).isSome ∨ address = payer := by
  constructor
  · exact fun h => ⟨charged_of_deposit h, listed_deposit h⟩
  · rintro ⟨charged, listed⟩
    have hlt := after.pool.toNat_lt
    have funds : amount.toNat ≤ (accounts.balance payer).toNat := by
      rw [charged.debit]
      exact Nat.le_add_left _ _
    obtain ⟨after', h⟩ := deposit_of_fit funds (charged.pool ▸ hlt)
    rw [h, charged.unique (charged_of_deposit h) fun address => (listed address).trans (listed_deposit h address).symm]

lemma deposit_comm (first : accounts.deposit payer amount = .ok middle)
    (second : middle.deposit other amount' = .ok after) :
    ∃ middle', accounts.deposit other amount' = .ok middle' ∧ middle'.deposit payer amount = .ok after := by
  obtain ⟨charged, listed⟩ := deposit_eq_ok_iff.mp first
  obtain ⟨charged', listed'⟩ := deposit_eq_ok_iff.mp second
  have hpool := charged.pool
  have hpool' := charged'.pool
  have funds : amount'.toNat ≤ (accounts.balance other).toNat := by
    have h := charged.balance other
    have h' := charged'.debit
    omega
  have fits : accounts.pool.toNat + amount'.toNat < UInt64.size := by
    have hlt := after.pool.toNat_lt
    omega
  obtain ⟨middle', hother⟩ := deposit_of_fit funds fits
  obtain ⟨swapped, hlisted⟩ := deposit_eq_ok_iff.mp hother
  -- At every address the four balances differ by the two debits.
  have hbalance : ∀ address, (middle'.balance address).toNat =
      (after.balance address).toNat + debitOf payer amount address := by
    intro address
    have h := charged.balance address
    have h' := charged'.balance address
    have hs := swapped.balance address
    omega
  refine ⟨middle', hother, deposit_eq_ok_iff.mpr ⟨?_, fun address => ?_⟩⟩
  · refine { owner := ?owner, pool := ?pool, debit := ?debit, others := fun address hne => ?others }
    case owner => rw [charged'.owner, charged.owner, swapped.owner]
    case pool =>
      have hs := swapped.pool
      omega
    case debit => rw [hbalance, debitOf, if_pos rfl]
    case others => rw [← Amount.toNat_inj, hbalance, debitOf, if_neg hne, Nat.add_zero]
  · rw [listed', listed, hlisted, or_right_comm]

lemma pay_comm {charge charge' : Option (Address × Amount)} (first : accounts.pay charge = .ok middle)
    (second : middle.pay charge' = .ok after) :
    ∃ middle', accounts.pay charge' = .ok middle' ∧ middle'.pay charge = .ok after := by
  cases charge with
  | none =>
    obtain rfl := Except.ok.inj first
    exact ⟨after, second, rfl⟩
  | some charge =>
    cases charge' with
    | none =>
      obtain rfl := Except.ok.inj second
      exact ⟨accounts, rfl, first⟩
    | some charge' => exact deposit_comm first second

end Accounts

section Calls

variable {κ : Type} [AddressCodec κ] {keeper : Keeper κ} {block : Block}

def Transaction.Exchange {α β γ : Type} (first : Transaction κ β α) (second : Transaction κ β γ)
    (ledger : Ledger κ β) : Prop :=
  ∀ a b middle next, first ledger = .ok a middle → second middle = .ok b next →
    ∃ middle', second ledger = .ok b middle' ∧ first middle' = .ok a next

namespace Keeper

variable {id : GameId} {game game' : Game} {closing : Instant} {other player : Address} {now : Instant}
  {text label salt : String} {move : Move}

omit [AddressCodec κ] in
lemma window_of_closing (h : keeper.closing now game = .ok closing) :
    game.revealDeadline = none ∨ game.revealDeadline = some closing := by
  rw [Keeper.closing] at h
  split at h
  · rename_i hdeadline
    exact Or.inr (hdeadline.trans (congrArg some (Except.ok.inj h)))
  · exact Or.inl (by assumption)

lemma admitReveal_opened (own : game.id = id) (stored : keeper.store.game? id = some game)
    (window : game.revealDeadline = none ∨ game.revealDeadline = some closing) (entry : MoveReveal) :
    Keeper.admitReveal { keeper with store :=
      (Deed.reveal other { game with revealDeadline := some closing } entry).write id keeper.store }
      now id text label salt = .ok (player, move, game') ↔
      keeper.admitReveal now id text label salt = .ok (player, move, game) ∧ player ≠ other ∧ ¬ closing < now ∧
        game' = { game with revealDeadline := some closing } := by
  set opened : Game := { game with revealDeadline := some closing } with hopened
  have hgame : ((Deed.reveal other opened entry).write id keeper.store).game? id = some opened := by
    rw [Deed.write, GameStore.game?_setReveal, GameStore.game?_setGame, if_pos own.symm]
  have hreveal : ((Deed.reveal other opened entry).write id keeper.store).hasReveal id player ↔
      player = other ∨ keeper.store.hasReveal id player := by
    simp only [Deed.write, GameStore.hasReveal, SortedMap.contains, GameStore.reveals_setReveal, SortedMap.get?_insert]
    by_cases hplayer : player = other <;> simp [hplayer, GameStore.setGame]
  have hclosed : opened.revealClosed now ↔ closing < now := by simp [Game.revealClosed, hopened]
  have hbefore : game.revealClosed now → closing < now := by
    rcases window with hnone | hsome
    · simp [Game.revealClosed, hnone]
    · simp [Game.revealClosed, hsome]
  rw [admitReveal_eq_ok_iff, admitReveal_eq_ok_iff]
  simp only [hgame, hreveal, not_or]
  constructor
  · rintro ⟨hplayer, hmove, hid, hwindow, commit, hcommit, hfull, ⟨hne, hfresh⟩, hopens⟩
    obtain rfl := Option.some.inj hid
    rw [hclosed] at hwindow
    exact ⟨⟨hplayer, hmove, stored, fun h => hwindow (hbefore h), commit, hcommit, hfull, hfresh, hopens⟩, hne, hwindow,
      rfl⟩
  · rintro ⟨⟨hplayer, hmove, _, _, commit, hcommit, hfull, hfresh, hopens⟩, hne, hwindow, rfl⟩
    exact ⟨hplayer, hmove, rfl, fun h => hwindow (hclosed.mp h), commit, hcommit, hfull, ⟨hne, hfresh⟩, hopens⟩

lemma admitStart_congr {store : GameStore} (next : store.nextId = keeper.store.nextId) (fee : Amount) :
    { keeper with store := store }.admitStart now text fee = keeper.admitStart now text fee := by
  simp only [admitStart, GameStore.allocate?_isNone, next]
  rfl

end Keeper

abbrev Proposal (κ α : Type) := Keeper κ → α → Option (Address × Amount) → GameStore → Prop

namespace Transaction

variable {α γ : Type}

structure Follows (tx : Transaction κ Accounts α) (proposal : Proposal κ α) : Prop where
  eq_ok_iff : ∀ {ledger next : Ledger κ Accounts} {a : α}, ledger.keeper.store.OwnIds →
    (tx ledger = .ok a next ↔ ∃ charge store bank, proposal ledger.keeper a charge store ∧
      ledger.bank.pay charge = .ok bank ∧ next = Ledger.withStore { ledger with bank := bank } store)
  ownIds : ∀ {keeper : Keeper κ} {a : α} {charge : Option (Address × Amount)} {store : GameStore},
    keeper.store.OwnIds → proposal keeper a charge store → store.OwnIds

omit [AddressCodec κ] in
lemma Follows.exchange {first : Transaction κ Accounts α} {second : Transaction κ Accounts γ} {proposal : Proposal κ α}
    {proposal' : Proposal κ γ} (hfirst : first.Follows proposal) (hsecond : second.Follows proposal')
    (ownIds : keeper.store.OwnIds) (swap : ∀ a b charge charge' store store', proposal keeper a charge store →
      proposal' { keeper with store := store } b charge' store' →
        ∃ other, proposal' keeper b charge' other ∧ proposal { keeper with store := other } a charge store')
    (bank : Accounts) : first.Exchange second ⟨keeper, bank⟩ := by
  intro a b middle next hok hok'
  obtain ⟨charge, store, bank', proposed, paid, rfl⟩ := (hfirst.eq_ok_iff ownIds).mp hok
  obtain ⟨charge', store', bank'', proposed', paid', rfl⟩ :=
    (hsecond.eq_ok_iff (hfirst.ownIds ownIds proposed)).mp hok'
  obtain ⟨other, hbefore, hafter⟩ := swap a b charge charge' store store' proposed proposed'
  obtain ⟨swapped, hswapped, hlast⟩ := Accounts.pay_comm paid paid'
  exact ⟨_, (hsecond.eq_ok_iff ownIds).mpr ⟨charge', other, swapped, hbefore, hswapped, rfl⟩,
    (hfirst.eq_ok_iff (hsecond.ownIds ownIds hbefore)).mpr ⟨charge, store', bank'', hafter, hlast, rfl⟩⟩

end Transaction

lemma GameStore.OwnIds.start {store : GameStore} (ownIds : store.OwnIds) (creator : Address) (fee : Amount)
    (closing : Instant) (first : MoveCommit) : (store.start creator fee closing first).OwnIds := by
  intro id game hgame
  rw [game?_start] at hgame
  split at hgame
  · rename_i hid
    obtain rfl := Option.some.inj hgame
    exact hid.symm
  · exact ownIds id game hgame

def Keeper.ProposesStart (block : Block) (player : String) (commitment : Commitment) (fee : Amount) :
    Proposal κ GameId := fun keeper id charge store =>
  ∃ creator closing, keeper.admitStart block.time player fee = .ok (creator, closing) ∧
    id = keeper.store.nextId ∧ charge = some (creator, fee) ∧
    store = keeper.store.start creator fee closing ⟨commitment, block.time⟩

lemma Transaction.startGame_follows (player : String) (commitment : Commitment) (fee : Amount) :
    (startGame block player commitment fee : Transaction κ Accounts GameId).Follows
      (Keeper.ProposesStart block player commitment fee) where
  eq_ok_iff _ := by
    constructor
    · intro accepted
      obtain ⟨creator, closing, bank, admitted, staked, hid, hnext⟩ := startGame_eq_ok accepted
      exact ⟨_, _, bank, ⟨creator, closing, admitted, hid, rfl, rfl⟩, staked, hnext⟩
    · rintro ⟨_, _, bank, ⟨creator, closing, admitted, rfl, rfl, rfl⟩, staked, rfl⟩
      simp only [Accounts.pay] at staked
      simp only [startGame_eq, admitted, Bank.deposit, staked]
  ownIds := by
    rintro keeper _ _ _ ownIds ⟨creator, closing, _, _, _, rfl⟩
    exact ownIds.start creator fee closing _

namespace Play

variable {first second play : Play}

def Proposes (block : Block) (play : Play) : Proposal κ Unit := fun keeper _ charge store =>
  ∃ deed, play.deed block keeper = .ok deed ∧ charge = deed.charge ∧ store = deed.write play.game keeper.store

lemma follows (play : Play) :
    (play.run block : Transaction κ Accounts Unit).Follows (play.Proposes block) where
  eq_ok_iff ownIds := by
    rw [run_eq_ok_iff ownIds]
    constructor
    · rintro ⟨deed, bank, hdeed, paid, rfl⟩
      exact ⟨_, _, bank, ⟨deed, hdeed, rfl, rfl⟩, paid, rfl⟩
    · rintro ⟨_, _, bank, ⟨deed, hdeed, rfl, rfl⟩, paid, rfl⟩
      exact ⟨deed, bank, hdeed, paid, rfl⟩
  ownIds := by
    rintro keeper _ _ _ ownIds ⟨deed, hdeed, _, rfl⟩
    exact Deed.write_ownIds ownIds (deed_own ownIds hdeed)

lemma exchange_of_ne (ownIds : keeper.store.OwnIds) (hne : first.game ≠ second.game) (bank : Accounts) :
    (first.run block).Exchange (second.run block) ⟨keeper, bank⟩ := by
  refine first.follows.exchange second.follows ownIds ?_ bank
  rintro _ _ _ _ _ _ ⟨deed, hdeed, rfl, rfl⟩ ⟨deed', hdeed', rfl, rfl⟩
  have own := deed_own ownIds hdeed
  have hbefore := (deed_congr (Deed.write_untouched own hne.symm)).symm.trans hdeed'
  have own' := deed_own ownIds hbefore
  have hafter := (deed_congr (Deed.write_untouched own' hne)).trans hdeed
  exact ⟨_, ⟨deed', hbefore, rfl, rfl⟩, deed, hafter, rfl, Deed.write_comm own own' hne⟩

lemma exchange_reveals (ownIds : keeper.store.OwnIds) (id : GameId) (text label salt text' label' salt' : String)
    (bank : Accounts) :
    ((reveal id text label salt).run block).Exchange ((reveal id text' label' salt').run block) ⟨keeper, bank⟩ := by
  refine (reveal id text label salt).follows.exchange (reveal id text' label' salt').follows ownIds ?_ bank
  rintro _ _ _ _ _ _ ⟨deed, hdeed, rfl, rfl⟩ ⟨deed', hdeed', rfl, rfl⟩
  obtain ⟨player, move, game, closing, admitted, closes, rfl⟩ := deed_reveal_eq_ok_iff.mp hdeed
  obtain ⟨player', move', game', closing', admitted', closes', rfl⟩ := deed_reveal_eq_ok_iff.mp hdeed'
  obtain ⟨_, _, stored, _⟩ := Keeper.admitReveal_eq_ok_iff.mp admitted
  have own := ownIds id game stored
  have window := Keeper.window_of_closing closes
  -- Whichever reveal is the first sets the window to the same end, and the other finds it set.
  obtain ⟨hbefore, hne, hopen, rfl⟩ := (Keeper.admitReveal_opened own stored window _).mp admitted'
  obtain rfl := Except.ok.inj closes'
  have hafter := (Keeper.admitReveal_opened own stored window ⟨move', salt', block.time⟩).mpr
    ⟨admitted, hne.symm, hopen, rfl⟩
  refine ⟨_, ⟨_, deed_reveal_eq_ok_iff.mpr ⟨player', move', game, closing, hbefore, closes, rfl⟩, rfl, rfl⟩, _,
    deed_reveal_eq_ok_iff.mpr ⟨player, move, _, closing, hafter, rfl, rfl⟩, rfl, ?_⟩
  have hseat : (⟨id, player⟩ : Seat) ≠ ⟨id, player'⟩ := fun hseat => hne (congrArg Seat.player hseat).symm
  exact congrArg (fun reveals => { (keeper.store.setGame { game with revealDeadline := some closing }).setGame
    { game with revealDeadline := some closing } with reveals }) (SortedMap.insert_comm _ _ hseat)

lemma exchange_start (ownIds : keeper.store.OwnIds) (hne : play.game ≠ keeper.store.nextId) (player : String)
    (commitment : Commitment) (fee : Amount) (bank : Accounts) :
    (Transaction.startGame block player commitment fee).Exchange (play.run block) ⟨keeper, bank⟩ ∧
      (play.run block).Exchange (Transaction.startGame block player commitment fee) ⟨keeper, bank⟩ := by
  have hdeeds : ∀ creator closing,
      play.deed block { keeper with store := keeper.store.start creator fee closing ⟨commitment, block.time⟩ } =
        play.deed block keeper := fun creator closing =>
    deed_congr ((GameStore.confined_start creator fee closing _).untouched hne)
  have hchecks : ∀ deed : Deed, Keeper.admitStart { keeper with store := deed.write play.game keeper.store } block.time
      player fee = keeper.admitStart block.time player fee := fun deed =>
    Keeper.admitStart_congr (deed.write_nextId _ keeper.store) fee
  have start : (Transaction.startGame block player commitment fee : Transaction κ Accounts GameId).Follows
      (Keeper.ProposesStart block player commitment fee) := Transaction.startGame_follows player commitment fee
  constructor
  · refine start.exchange play.follows ownIds ?_ bank
    rintro _ _ _ _ _ _ ⟨creator, closing, admitted, rfl, rfl, rfl⟩ ⟨deed, hdeed, rfl, rfl⟩
    rw [hdeeds] at hdeed
    exact ⟨_, ⟨deed, hdeed, rfl, rfl⟩, creator, closing, (hchecks deed).trans admitted,
      (deed.write_nextId _ keeper.store).symm, rfl, Deed.write_start (deed_own ownIds hdeed) hne creator fee closing _⟩
  · refine play.follows.exchange start ownIds ?_ bank
    rintro _ _ _ _ _ _ ⟨deed, hdeed, rfl, rfl⟩ ⟨creator, closing, admitted, rfl, rfl, rfl⟩
    rw [hchecks] at admitted
    exact ⟨_, ⟨creator, closing, admitted, deed.write_nextId _ keeper.store, rfl, rfl⟩, deed,
      (hdeeds creator closing).trans hdeed, rfl,
      (Deed.write_start (deed_own ownIds hdeed) hne creator fee closing _).symm⟩

end Play

omit [AddressCodec κ] in
lemma Transaction.Exchange.after_eq {α β γ : Type} {first : Transaction κ β α} {second : Transaction κ β γ}
    {ledger : Ledger κ β} {b : γ} (exchange : first.Exchange second ledger)
    (both : (first >>= fun _ => second).answer ledger = .ok b) :
    (second >>= fun _ => first).after ledger = (first >>= fun _ => second).after ledger := by
  obtain ⟨next, hboth⟩ := answer_eq_ok_iff.mp both
  obtain ⟨a, middle, hfirst, hsecond⟩ := action_bind_eq_ok_iff.mp hboth
  obtain ⟨middle', hsecond', hfirst'⟩ := exchange a b middle next hfirst hsecond
  have hswapped : (second >>= fun _ => first) ledger = .ok a next :=
    action_bind_eq_ok_iff.mpr ⟨b, middle', hsecond', hfirst'⟩
  rw [after, after, hboth, hswapped]

/-- Calls of players on different games, a call that opens a game and one on a game that is there, and two reveals in
one game go through in either order if they do in one, with the same answers, records and money. -/
theorem Keeper.independent_calls_commute (reachable : keeper.Reachable) (bank : Accounts) (block : Block) :
    (∀ first second : Play, first.game ≠ second.game →
      (first.run block).Exchange (second.run block) ⟨keeper, bank⟩) ∧
    (∀ player commitment fee (play : Play), keeper.store.game? play.game ≠ none →
      (Transaction.startGame block player commitment fee).Exchange (play.run block) ⟨keeper, bank⟩ ∧
        (play.run block).Exchange (Transaction.startGame block player commitment fee) ⟨keeper, bank⟩) ∧
    ∀ id text label salt text' label' salt',
      (Transaction.revealMove block id text label salt).Exchange (Transaction.revealMove block id text' label' salt')
        ⟨keeper, bank⟩ := by
  have h := reachable.wellFormed
  have ownIds : keeper.store.OwnIds := fun _ _ => h.ownId
  refine ⟨fun first second hne => Play.exchange_of_ne ownIds hne bank, fun player commitment fee play stored => ?_,
    fun id text label salt text' label' salt' =>
      Play.exchange_reveals ownIds id text label salt text' label' salt' bank⟩
  obtain ⟨game, hgame⟩ := Option.ne_none_iff_exists'.mp stored
  exact Play.exchange_start ownIds (h.ne_next hgame) player commitment fee bank

end Calls

namespace Sample

def paired : Keeper Bech32Codec :=
  fresh.after (punctual.take 2 ++ [⟨.startGame ⟨2, .epoch⟩ "rps1qvdrtkhs" ⟨"z"⟩ ⟨5⟩, ledger.bank⟩])

def purse : Ledger Bech32Codec Accounts :=
  ⟨paired, { ledger.bank with balances := (∅ : SortedMap Address Amount).insert ⟨[1]⟩ ⟨7⟩ }⟩

def third : Block := ⟨3, waitingGame.commitDeadline⟩

def rock : Play := .reveal 0 "rps1qvdrtkhs" "rock" ":"

def seconding : Play := .commit 1 "rps1qynh06fd" ⟨"w"⟩

end Sample

theorem Keeper.independent_calls_commute_paired :
    (Sample.seconding.run Sample.third >>= fun _ => Sample.rock.run Sample.third).after Sample.purse =
      (Sample.rock.run Sample.third >>= fun _ => Sample.seconding.run Sample.third).after Sample.purse ∧
    (Sample.seconding.run Sample.third >>= fun _ =>
      Transaction.startGame Sample.third "rps1qynh06fd" ⟨"v"⟩ ⟨2⟩).after Sample.purse =
      (Transaction.startGame Sample.third "rps1qynh06fd" ⟨"v"⟩ ⟨2⟩ >>= fun _ =>
        Sample.seconding.run Sample.third).after Sample.purse ∧
    (Transaction.revealMove Sample.third 0 "rps1qynh06fd" "paper" "s" >>= fun _ =>
      Transaction.revealMove Sample.third 0 "rps1qvdrtkhs" "rock" ":").after Sample.purse =
      (Transaction.revealMove Sample.third 0 "rps1qvdrtkhs" "rock" ":" >>= fun _ =>
        Transaction.revealMove Sample.third 0 "rps1qynh06fd" "paper" "s").after Sample.purse := by
  have reachable : Sample.paired.Reachable := (Reachable.new Sample.new_fresh).after _
  obtain ⟨hplays, hstarts, hreveals⟩ := independent_calls_commute reachable Sample.purse.bank Sample.third
  have hne : Sample.rock.game ≠ Sample.seconding.game := by decide
  have stored : Sample.paired.store.game? Sample.seconding.game ≠ none := by decide +kernel
  refine ⟨(hplays Sample.rock Sample.seconding hne).after_eq (b := ()) ?_,
    (hstarts "rps1qynh06fd" ⟨"v"⟩ ⟨2⟩ Sample.seconding stored).1.after_eq (b := ()) ?_,
    (hreveals 0 "rps1qvdrtkhs" "rock" ":" "rps1qynh06fd" "paper" "s").after_eq (b := ()) ?_⟩ <;>
    decide +kernel

end Roshambo
