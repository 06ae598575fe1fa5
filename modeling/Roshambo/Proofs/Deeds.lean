import Roshambo.Proofs.WriteOnce

/-! The calls of players on games in two parts: what a call will write and charge, which its checks decide from one
game, and carrying that out. -/

namespace Roshambo

inductive Deed
  | commit (player : Address) (fee : Amount) (entry : MoveCommit)
  | reveal (player : Address) (game : Game) (entry : MoveReveal)

namespace Deed

variable {store : GameStore} {id other : GameId} {deed : Deed}

def charge : Deed → Option (Address × Amount)
  | commit player fee _ => some (player, fee)
  | reveal _ _ _ => none

def write (id : GameId) (store : GameStore) : Deed → GameStore
  | commit player _ entry => store.setCommit id player entry
  | reveal player game entry => (store.setGame game).setReveal id player entry

def Own (id : GameId) : Deed → Prop
  | commit _ _ _ => True
  | reveal _ game _ => game.id = id

lemma write_nextId (deed : Deed) (id : GameId) (store : GameStore) : (deed.write id store).nextId = store.nextId := by
  cases deed <;> rfl

lemma write_untouched (own : deed.Own id) (hne : other ≠ id) : store.Untouched (deed.write id store) other := by
  cases deed with
  | commit player fee entry => exact (GameStore.confined_setCommit entry).untouched hne
  | reveal player game entry =>
    obtain rfl : game.id = id := own
    exact ((GameStore.confined_setGame game player).trans (GameStore.confined_setReveal entry)).untouched hne

lemma write_ownIds (ownIds : store.OwnIds) (own : deed.Own id) : (deed.write id store).OwnIds := by
  cases deed with
  | commit player fee entry => exact ownIds
  | reveal player game entry =>
    obtain rfl : game.id = id := own
    intro other game' hgame
    rw [write, GameStore.game?_setReveal, GameStore.game?_setGame] at hgame
    split at hgame
    · rename_i hid
      rw [hid, Option.some.inj hgame]
    · exact ownIds other game' hgame

lemma write_comm {deed' : Deed} (own : deed.Own id) (own' : deed'.Own other) (hne : id ≠ other) :
    deed'.write other (deed.write id store) = deed.write id (deed'.write other store) := by
  have hseat : ∀ player player', (⟨id, player⟩ : Seat) ≠ ⟨other, player'⟩ :=
    fun _ _ hseat => hne (congrArg Seat.game hseat)
  cases deed with
  | commit player fee entry =>
    cases deed' with
    | commit player' fee' entry' =>
      exact congrArg (fun commits => { store with commits }) (SortedMap.insert_comm _ _ (hseat player player'))
    | reveal player' game' entry' => rfl
  | reveal player game entry =>
    cases deed' with
    | commit player' fee' entry' => rfl
    | reveal player' game' entry' =>
      obtain rfl : game.id = id := own
      obtain rfl : game'.id = other := own'
      exact congrArg₂ (fun games reveals => { store with games, reveals }) (SortedMap.insert_comm _ _ hne)
        (SortedMap.insert_comm _ _ (hseat player player'))

lemma write_start (own : deed.Own id) (hne : id ≠ store.nextId) (creator : Address) (fee : Amount) (closing : Instant)
    (first : MoveCommit) : deed.write id (store.start creator fee closing first) =
      (deed.write id store).start creator fee closing first := by
  have hseat : ∀ player, (⟨store.nextId, creator⟩ : Seat) ≠ ⟨id, player⟩ :=
    fun _ hseat => hne (congrArg Seat.game hseat).symm
  cases deed with
  | commit player fee' entry =>
    exact congrArg (fun commits => { store.start creator fee closing first with commits })
      (SortedMap.insert_comm _ _ (hseat player))
  | reveal player game entry =>
    obtain rfl : game.id = id := own
    exact congrArg (fun games => { (store.start creator fee closing first).setReveal game.id player entry with games })
      (SortedMap.insert_comm _ _ hne.symm)

end Deed

lemma GameStore.setGame_stored {store : GameStore} {id : GameId} {game : Game} (ownIds : store.OwnIds)
    (stored : store.game? id = some game) : store.setGame game = store := by
  obtain rfl := ownIds id game stored
  exact congrArg (fun games => { store with games }) (SortedMap.insert_of_get? stored)

inductive Play
  | commit (id : GameId) (player : String) (commitment : Commitment)
  | reveal (id : GameId) (player label salt : String)

def Accounts.pay (accounts : Accounts) : Option (Address × Amount) → Except LedgerError Accounts
  | none => .ok accounts
  | some (payer, amount) => accounts.deposit payer amount

variable {κ : Type} [AddressCodec κ] {keeper : Keeper κ} {ledger next : Ledger κ Accounts} {block : Block}

def Keeper.closing (keeper : Keeper κ) (now : Instant) (game : Game) : Except GameError Instant :=
  match game.revealDeadline with
  | some closing => .ok closing
  | none => deadline now keeper.params.revealWindow "reveal deadline"

namespace Play

def game : Play → GameId
  | commit id _ _ => id
  | reveal id _ _ _ => id

def run {β : Type} [Bank β] (block : Block) : Play → Transaction κ β Unit
  | commit id player commitment => Transaction.commitMove block id player commitment
  | reveal id player label salt => Transaction.revealMove block id player label salt

def deed (block : Block) (keeper : Keeper κ) : Play → Except GameError Deed
  | commit id player commitment => do
    let (joiner, fee) ← keeper.admitCommit block.time id player
    return .commit joiner fee ⟨commitment, block.time⟩
  | reveal id player label salt => do
    let (player, move, game) ← keeper.admitReveal block.time id player label salt
    let closing ← keeper.closing block.time game
    return .reveal player { game with revealDeadline := some closing } ⟨move, salt, block.time⟩

variable {play : Play} {deed : Deed}

lemma deed_reveal_eq_ok_iff {id : GameId} {text label salt : String} :
    (reveal id text label salt).deed block keeper = .ok deed ↔ ∃ player move game closing,
      keeper.admitReveal block.time id text label salt = .ok (player, move, game) ∧
        keeper.closing block.time game = .ok closing ∧
        deed = .reveal player { game with revealDeadline := some closing } ⟨move, salt, block.time⟩ := by
  simp only [Play.deed, bind_eq_ok_iff]
  constructor
  · rintro ⟨⟨player, move, game⟩, admitted, closing, closes, h⟩
    exact ⟨player, move, game, closing, admitted, closes, (Except.ok.inj h).symm⟩
  · rintro ⟨player, move, game, closing, admitted, closes, rfl⟩
    exact ⟨(player, move, game), admitted, closing, closes, rfl⟩

lemma deed_own (ownIds : keeper.store.OwnIds) (h : play.deed block keeper = .ok deed) : deed.Own play.game := by
  cases play with
  | commit id text commitment =>
    simp only [Play.deed, bind_eq_ok_iff] at h
    obtain ⟨_, _, h⟩ := h
    obtain rfl := Except.ok.inj h
    exact trivial
  | reveal id text label salt =>
    obtain ⟨_, _, game, _, admitted, _, rfl⟩ := deed_reveal_eq_ok_iff.mp h
    obtain ⟨_, _, hgame, _⟩ := Keeper.admitReveal_eq_ok_iff.mp admitted
    exact ownIds id game hgame

lemma run_eq (ownIds : ledger.keeper.store.OwnIds) : play.run block ledger =
    match play.deed block ledger.keeper with
    | .error e => .error e ledger
    | .ok deed =>
      match ledger.bank.pay deed.charge with
      | .error e => .error (.ofLedger e) ledger
      | .ok bank => .ok ()
        (Ledger.withStore { ledger with bank := bank } (deed.write play.game ledger.keeper.store)) := by
  cases play with
  | commit id text commitment =>
    simp only [run, Transaction.commitMove_eq, Play.deed]
    cases ledger.keeper.admitCommit block.time id text with
    | error e => rfl
    | ok entry =>
      have hpay : ledger.bank.pay (Deed.commit entry.1 entry.2 ⟨commitment, block.time⟩).charge =
          Bank.deposit ledger.bank entry.1 entry.2 := rfl
      simp only [ok_bind, pure, Except.pure, hpay]
      cases Bank.deposit ledger.bank entry.1 entry.2 <;> rfl
  | reveal id text label salt =>
    simp only [run, Transaction.revealMove_eq, Play.deed]
    cases admitted : ledger.keeper.admitReveal block.time id text label salt with
    | error e => rfl
    | ok entry =>
      obtain ⟨player, move, game⟩ := entry
      cases hdeadline : game.revealDeadline with
      | some closing =>
        -- The window is open, so that the game is written as it stands.
        obtain ⟨_, _, hgame, _⟩ := Keeper.admitReveal_eq_ok_iff.mp admitted
        have hsame : { game with revealDeadline := some closing } = game := by rw [← hdeadline]
        simp only [ok_bind, Keeper.closing, hdeadline, hsame]
        change _ = EStateM.Result.ok () (Ledger.withStore ledger
          ((ledger.keeper.store.setGame game).setReveal id player ⟨move, salt, block.time⟩))
        rw [GameStore.setGame_stored ownIds hgame]
      | none =>
        simp only [ok_bind, Keeper.closing, hdeadline]
        cases Keeper.deadline block.time ledger.keeper.params.revealWindow "reveal deadline" <;> rfl

lemma run_eq_ok_iff (ownIds : ledger.keeper.store.OwnIds) : play.run block ledger = .ok () next ↔
    ∃ deed bank, play.deed block ledger.keeper = .ok deed ∧ ledger.bank.pay deed.charge = .ok bank ∧
      next = Ledger.withStore { ledger with bank := bank } (deed.write play.game ledger.keeper.store) := by
  rw [run_eq ownIds]
  cases play.deed block ledger.keeper with
  | error e => simp
  | ok deed =>
    cases hpay : ledger.bank.pay deed.charge with
    | error e => simp [hpay]
    | ok bank => simp [hpay, eq_comm]

lemma deed_congr {store : GameStore} (untouched : keeper.store.Untouched store play.game) :
    play.deed block { keeper with store := store } = play.deed block keeper := by
  have hcount : store.commitCount play.game = keeper.store.commitCount play.game :=
    congrArg List.length (GameStore.commitsOf_congr untouched.commit)
  have hcommit : ∀ player, store.hasCommit play.game player = keeper.store.hasCommit play.game player :=
    fun player => congrArg Option.isSome (untouched.commit player)
  have hreveal : ∀ player, store.hasReveal play.game player = keeper.store.hasReveal play.game player :=
    fun player => congrArg Option.isSome (untouched.reveal player)
  have hentry : ∀ player, store.commit? play.game player = keeper.store.commit? play.game player := untouched.commit
  have hgame := untouched.game
  cases play with
  | commit id text commitment =>
    simp only [game] at hgame hcount hcommit
    simp only [Play.deed, Keeper.admitCommit, Keeper.findGame, hgame, hcount, hcommit]
    rfl
  | reveal id text label salt =>
    simp only [game] at hgame hcount hreveal hentry
    simp only [Play.deed, Keeper.admitReveal, Keeper.findGame, hgame, hcount, hreveal, hentry]
    rfl

end Play

end Roshambo
