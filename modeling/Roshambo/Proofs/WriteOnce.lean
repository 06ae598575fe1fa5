import Roshambo.CommandLine.Summary
import Roshambo.Proofs.Frames

namespace Roshambo

variable {κ β : Type}

namespace Phase

def rank : Phase → Nat
  | waiting => 0
  | committed => 1
  | revealing => 2

lemma rank_ofCounts_le {commits commits' reveals reveals' : Nat} (hcommits : commits ≤ commits')
    (hreveals : reveals ≤ reveals') : (ofCounts commits reveals).rank ≤ (ofCounts commits' reveals').rank := by
  simp only [ofCounts]
  split_ifs <;> simp only [rank] <;> omega

end Phase

def Call.RevealsFirst (call : Call) (before after : GameStore) (id : GameId) : Prop :=
  ∃ block text label salt player reveal, call = .revealMove block id text label salt ∧ before.revealsOf id = [] ∧
    after.revealsOf id = [(player, reveal)]

structure Call.Carries (call : Call) (before after : GameStore) (id : GameId) (game game' : Game) : Prop where
  ownId : game'.id = game.id
  entryFee : game'.entryFee = game.entryFee
  commitDeadline : game'.commitDeadline = game.commitDeadline
  commits : ∀ player commit, before.commit? id player = some commit → after.commit? id player = some commit
  reveals : ∀ player reveal, before.reveals.get? ⟨id, player⟩ = some reveal →
    after.reveals.get? ⟨id, player⟩ = some reveal
  revealDeadline : game'.revealDeadline = game.revealDeadline ∨
    (game.revealDeadline = none ∧ (∃ closing, game'.revealDeadline = some closing) ∧ call.RevealsFirst before after id)
  phase : (CommandLine.phaseOf before id).rank ≤ (CommandLine.phaseOf after id).rank

structure Keeper.Confined (before after : Keeper κ) (id : GameId) (player : Address) : Prop where
  rest : after = { before with store := after.store }
  store : before.store.Confined after.store id player

structure Accounts.Charged (before after : Accounts) (payer : Address) (amount : Amount) : Prop where
  owner : after.owner = before.owner
  pool : after.pool.toNat = before.pool.toNat + amount.toNat
  debit : (before.balance payer).toNat = (after.balance payer).toNat + amount.toNat
  others : ∀ other, other ≠ payer → after.balance other = before.balance other

lemma Accounts.charged_of_deposit {before after : Accounts} {payer : Address} {amount : Amount}
    (h : before.deposit payer amount = .ok after) : before.Charged after payer amount := by
  obtain ⟨remaining, hpayer, hpool, hafter⟩ := deposit_eq_ok h
  have hbalance : ∀ address, after.balance address = if address = payer then remaining else before.balance address := by
    intro address
    rw [hafter]
    exact balanceIn_insert before.balances payer address remaining
  refine { owner := ?owner, pool := hpool, debit := ?debit, others := ?others }
  case owner => rw [hafter]
  case debit => rw [hbalance, if_pos rfl, hpayer]
  case others =>
    intro other hne
    rw [hbalance, if_neg hne]

variable [AddressCodec κ] [Bank β] {keeper : Keeper κ} {turn : Turn β} {store : GameStore} {id : GameId}
  {player : Address}

namespace Turn.Effect

lemma reveal_kept (effect : turn.Effect keeper store) (stored : store.game? id ≠ none) {reveal : MoveReveal}
    (hreveal : keeper.store.reveals.get? ⟨id, player⟩ = some reveal) :
    store.reveals.get? ⟨id, player⟩ = some reveal := by
  cases effect with
  | quiet _ _
  | start _ _ _
  | join _ _ => exact hreveal
  | firstReveal _ _ admitted _ _
  | reveal _ admitted _ =>
    obtain ⟨_, _, _, _, _, _, _, hfresh, _⟩ := Keeper.admitReveal_eq_ok_iff.mp admitted
    rw [GameStore.reveals_setReveal, SortedMap.get?_insert, if_neg]
    · exact hreveal
    · intro hseat
      obtain ⟨rfl, rfl⟩ := Seat.mk.inj hseat
      cases (GameStore.get?_eq_none_of_not_hasReveal hfresh).symm.trans hreveal
  | round _ => exact ((GameStore.untouched_without stored).reveal player).trans hreveal

lemma game_kept (effect : turn.Effect keeper store) (h : keeper.store.WellFormed keeper.codec) {game game' : Game}
    (met : keeper.store.game? id = some game) (left : store.game? id = some game') :
    game' = game ∨ ∃ closing, game.revealDeadline = none ∧ game' = { game with revealDeadline := some closing } ∧
      turn.call.RevealsFirst keeper.store store id := by
  have hsame : store.game? id = keeper.store.game? id → game' = game := fun hgame =>
    Option.some.inj (left.symm.trans (hgame.trans met))
  cases effect with
  | quiet _ _
  | join _ _
  | reveal _ _ _ => exact Or.inl (hsame rfl)
  | start _ _ _ => exact Or.inl (hsame ((GameStore.confined_start _ _ _ _).game id (h.ne_next met)))
  | round _ =>
    have stored : (keeper.store.without ((turn.paid keeper).map (·.game))).game? id ≠ none :=
      left ▸ Option.some_ne_none game'
    exact Or.inl (hsame (GameStore.untouched_without stored).game)
  | @firstReveal block revealed text label salt player move shown closing call admitted unset _ =>
    obtain ⟨_, _, hshown, _⟩ := Keeper.admitReveal_eq_ok_iff.mp admitted
    by_cases hid : id = revealed
    · subst hid
      obtain rfl := Option.some.inj (hshown.symm.trans met)
      rw [GameStore.game?_setReveal, h.game?_setDeadline closing met] at left
      have hfirst : keeper.store.revealsOf id = [] := by
        rw [List.eq_nil_iff_forall_not_mem]
        rintro ⟨other, reveal⟩ hmem
        exact h.deadlineOfReveal (GameStore.mem_ofGame.mp hmem) met unset
      exact Or.inr ⟨closing, unset, (Option.some.inj left).symm, block, text, label, salt, player, _, call, hfirst,
        GameStore.ofGame_insert_first hfirst _⟩
    · exact Or.inl (hsame ((GameStore.confined_firstReveal (h.ownId hshown) closing _).game id hid))

lemma carries (effect : turn.Effect keeper store) (h : keeper.store.WellFormed keeper.codec) {game game' : Game}
    (met : keeper.store.game? id = some game) (left : store.game? id = some game') :
    turn.call.Carries keeper.store store id game game' := by
  have stored : store.game? id ≠ none := left ▸ Option.some_ne_none game'
  have hcommits : ∀ player commit, keeper.store.commit? id player = some commit →
      store.commit? id player = some commit := fun _ _ => effect.commit_kept h stored
  have hreveals : ∀ player reveal, keeper.store.reveals.get? ⟨id, player⟩ = some reveal →
      store.reveals.get? ⟨id, player⟩ = some reveal := fun _ _ => effect.reveal_kept stored
  have hphase : (CommandLine.phaseOf keeper.store id).rank ≤ (CommandLine.phaseOf store id).rank :=
    Phase.rank_ofCounts_le (GameStore.ofGame_length_le hcommits) (GameStore.ofGame_length_le hreveals)
  rcases effect.game_kept h met left with rfl | ⟨closing, unset, rfl, hfirst⟩
  · exact ⟨rfl, rfl, rfl, hcommits, hreveals, Or.inl rfl, hphase⟩
  · exact ⟨rfl, rfl, rfl, hcommits, hreveals, Or.inr ⟨unset, ⟨closing, rfl⟩, hfirst⟩, hphase⟩

lemma grows (effect : turn.Effect keeper store) (h : keeper.store.WellFormed keeper.codec)
    (call : ∀ block, turn.call ≠ .endRound block) : keeper.store.Extends store := by
  have hgame : ∀ id game, keeper.store.game? id = some game → ∃ game', store.game? id = some game' := by
    intro id game met
    cases effect with
    | quiet _ _
    | join _ _
    | reveal _ _ _ => exact ⟨game, met⟩
    | start _ _ _ => exact ⟨game, ((GameStore.confined_start _ _ _ _).game id (h.ne_next met)).trans met⟩
    | round hround => exact (call _ hround).elim
    | firstReveal closing _ admitted _ _ =>
      obtain ⟨_, _, hshown, _⟩ := Keeper.admitReveal_eq_ok_iff.mp admitted
      rw [GameStore.game?_setReveal, GameStore.game?_setGame]
      split
      · exact ⟨_, rfl⟩
      · exact ⟨game, met⟩
  have stored : ∀ {id game}, keeper.store.game? id = some game → store.game? id ≠ none := by
    intro id game met
    obtain ⟨game', left⟩ := hgame id game met
    exact left ▸ Option.some_ne_none game'
  refine { game := hgame, commit := fun seat commit hcommit => ?commit, reveal := fun seat reveal hreveal => ?seen }
  case commit =>
    obtain ⟨game, met⟩ := h.commitOfGame hcommit
    exact effect.commit_kept h (stored met) hcommit
  case seen =>
    obtain ⟨game, met⟩ := h.revealOfGame hreveal
    exact effect.reveal_kept (stored met) hreveal

end Turn.Effect

section Players

variable {ledger next : Ledger κ β} {block : Block} {text label salt : String} {commitment : Commitment}

lemma Transaction.startGame_confined {fee : Amount} (h : ledger.keeper.store.WellFormed ledger.keeper.codec)
    (accepted : startGame block text commitment fee ledger = .ok id next) :
    ∃ player game, ledger.keeper.resolve text = .ok player ∧ ledger.keeper.Confined next.keeper id player ∧
      ledger.keeper.store.game? id = none ∧ next.keeper.store.game? id = some game ∧ game.entryFee = fee ∧
      Bank.deposit ledger.bank player fee = .ok next.bank := by
  obtain ⟨player, closing, bank, admitted, staked, rfl, rfl⟩ := startGame_eq_ok accepted
  obtain ⟨_, hplayer, _⟩ := Keeper.admitStart_eq_ok_iff.mp admitted
  have hgame := GameStore.game?_start ledger.keeper.store player fee closing ⟨commitment, block.time⟩
    ledger.keeper.store.nextId
  rw [if_pos rfl] at hgame
  exact ⟨player, _, hplayer, ⟨rfl, GameStore.confined_start player fee closing _⟩, h.game?_next, hgame, rfl, staked⟩

lemma Transaction.commitMove_confined (accepted : commitMove block id text commitment ledger = .ok () next) :
    ∃ player game, ledger.keeper.resolve text = .ok player ∧ ledger.keeper.Confined next.keeper id player ∧
      ledger.keeper.store.game? id = some game ∧ Bank.deposit ledger.bank player game.entryFee = .ok next.bank := by
  obtain ⟨player, fee, bank, admitted, staked, rfl⟩ := commitMove_eq_ok accepted
  obtain ⟨hplayer, game, hgame, _, _, _, rfl⟩ := Keeper.admitCommit_eq_ok_iff.mp admitted
  exact ⟨player, game, hplayer, ⟨rfl, GameStore.confined_setCommit _⟩, hgame, staked⟩

omit [Bank β] in
lemma Transaction.revealMove_confined (h : ledger.keeper.store.WellFormed ledger.keeper.codec)
    (accepted : revealMove block id text label salt ledger = .ok () next) :
    ∃ player, ledger.keeper.resolve text = .ok player ∧ ledger.keeper.Confined next.keeper id player ∧
      next.bank = ledger.bank := by
  obtain ⟨player, move, game, admitted, hnext⟩ := revealMove_eq_ok accepted
  obtain ⟨hplayer, _, hgame, _⟩ := Keeper.admitReveal_eq_ok_iff.mp admitted
  rcases hnext with rfl | ⟨closing, rfl⟩
  · exact ⟨player, hplayer, ⟨rfl, GameStore.confined_setReveal _⟩, rfl⟩
  · exact ⟨player, hplayer, ⟨rfl, GameStore.confined_firstReveal (h.ownId hgame) closing _⟩, rfl⟩

omit [Bank β] in
lemma Transaction.updateParams_after (authority : String) (params : Params) :
    ∃ kept, (updateParams authority params).after ledger =
      { ledger with keeper := { ledger.keeper with params := kept } } := by
  rw [after, updateParams_eq]
  cases accepted : ledger.keeper.updateParams authority params with
  | error e => exact ⟨ledger.keeper.params, rfl⟩
  | ok keeper =>
    obtain ⟨_, _, _, rfl⟩ := Keeper.updateParams_eq_ok_iff.mp accepted
    exact ⟨params, rfl⟩

end Players

/-- Whatever was imported and called, a further call leaves the terms and the records of every game that is still
there, and only a round drops games. A call of a player that goes through is about one seat and charges that player's
account alone, with the entry fee of the game, and new params change nothing else. -/
theorem Keeper.records_write_once (reachable : keeper.Reachable) :
    (∀ {β : Type} [Bank β] (bank : β) (call : Call),
      (∀ id game game', keeper.store.game? id = some game →
        (call.apply ⟨keeper, bank⟩).keeper.store.game? id = some game' →
          call.Carries keeper.store (call.apply ⟨keeper, bank⟩).keeper.store id game game') ∧
      ((∀ block, call ≠ .endRound block) → keeper.store.Extends (call.apply ⟨keeper, bank⟩).keeper.store)) ∧
    (∀ {β : Type} [Bank β] {bank : β} {next : Ledger κ β} {block text commitment fee id},
      Transaction.startGame block text commitment fee ⟨keeper, bank⟩ = .ok id next →
        ∃ player game, keeper.resolve text = .ok player ∧ keeper.Confined next.keeper id player ∧
          keeper.store.game? id = none ∧ next.keeper.store.game? id = some game ∧ game.entryFee = fee ∧
          Bank.deposit bank player fee = .ok next.bank) ∧
    (∀ {β : Type} [Bank β] {bank : β} {next : Ledger κ β} {block id text commitment},
      Transaction.commitMove block id text commitment ⟨keeper, bank⟩ = .ok () next →
        ∃ player game, keeper.resolve text = .ok player ∧ keeper.Confined next.keeper id player ∧
          keeper.store.game? id = some game ∧ Bank.deposit bank player game.entryFee = .ok next.bank) ∧
    (∀ {β : Type} {bank : β} {next : Ledger κ β} {block id text label salt},
      Transaction.revealMove block id text label salt ⟨keeper, bank⟩ = .ok () next →
        ∃ player, keeper.resolve text = .ok player ∧ keeper.Confined next.keeper id player ∧ next.bank = bank) ∧
    (∀ {accounts charged : Accounts} {payer amount},
      Bank.deposit accounts payer amount = .ok charged → accounts.Charged charged payer amount) ∧
    ∀ {β : Type} [Bank β] (bank : β) (authority : String) (params : Params), ∃ kept,
      (Call.updateParams authority params).apply ⟨keeper, bank⟩ = ⟨{ keeper with params := kept }, bank⟩ := by
  have h := reachable.wellFormed
  have ownIds : keeper.store.OwnIds := fun _ _ => h.ownId
  refine ⟨fun {β} _ bank call => ?_, fun accepted => Transaction.startGame_confined h accepted,
    fun accepted => Transaction.commitMove_confined accepted,
    fun accepted => Transaction.revealMove_confined h accepted, fun charged => Accounts.charged_of_deposit charged,
    fun bank authority params => Transaction.updateParams_after authority params⟩
  have effect : (⟨call, bank⟩ : Turn β).Effect keeper (call.apply ⟨keeper, bank⟩).keeper.store := Turn.effect ownIds
  exact ⟨fun id game game' met left => effect.carries h met left, fun players => effect.grows h players⟩

namespace Sample

def joined : Keeper Bech32Codec := fresh.after (revealing.take 2)

def showing : Call := .revealMove ⟨1, .epoch⟩ 0 "rps1qvdrtkhs" "rock" ":"

def waitingGame : Game := ⟨0, ⟨5⟩, ⟨60, 0, by decide, by decide⟩, none⟩

end Sample

theorem Keeper.records_write_once_showing :
    Sample.showing.Carries Sample.joined.store (Sample.showing.apply ⟨Sample.joined, Sample.ledger.bank⟩).keeper.store 0
        Sample.waitingGame { Sample.waitingGame with revealDeadline := some ⟨60, 0, by decide, by decide⟩ } ∧
      Sample.joined.store.Extends (Sample.showing.apply ⟨Sample.joined, Sample.ledger.bank⟩).keeper.store := by
  have reachable : Sample.joined.Reachable := (Reachable.new Sample.new_fresh).after (Sample.revealing.take 2)
  obtain ⟨hcalls, _⟩ := records_write_once reachable
  obtain ⟨hcarries, hgrows⟩ := hcalls Sample.ledger.bank Sample.showing
  exact ⟨hcarries 0 _ _ (by decide +kernel) (by decide +kernel), hgrows fun _ hcall => nomatch hcall⟩

end Roshambo
