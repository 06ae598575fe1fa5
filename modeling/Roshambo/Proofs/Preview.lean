import Roshambo.Node.Basic
import Roshambo.Proofs.Refusals
import Roshambo.Proofs.Sweep

namespace Roshambo

variable {κ β : Type} {store next : GameStore} {planned : List Settlement}

namespace Settlement

variable {now : Instant}

lemma sweep_sorted (ownId : ∀ id game, store.game? id = some game → game.id = id)
    (swept : sweep now store = .ok (next, planned)) : (planned.map (·.game)).Pairwise (· < ·) := by
  have hsub := (sweep_eq_ok swept).1.sublist
  rw [← GameStore.keys_eq_ids ownId] at hsub
  exact store.keys_sorted.sublist hsub

end Settlement

namespace Transaction

variable [Bank β] {keeper : Keeper κ} {block : Block}

lemma endRound_eq_settlePlanned (ownId : ∀ id game, keeper.store.game? id = some game → game.id = id)
    (swept : Settlement.sweep block.time keeper.store = .ok (next, planned)) (bank : β) :
    endRound block ⟨keeper, bank⟩ = settlePlanned planned ⟨block.height, [], []⟩ ⟨keeper, bank⟩ := by
  obtain ⟨hplanned, _⟩ := Settlement.sweep_eq_ok swept
  have hnodup := keeper.store.games.keys_nodup
  rw [GameStore.keys_eq_ids ownId] at hnodup
  rw [endRound_eq, GameStore.keys_eq_ids ownId]
  exact settleGames_eq_settlePlanned hplanned (fun g hg => GameStore.game?_of_mem_values ownId hg) hnodup
    (fun g _ => List.not_mem_nil) _ (GameStore.without_nil _).symm

lemma endRound_of_paid (ownId : ∀ id game, keeper.store.game? id = some game → game.id = id)
    (swept : Settlement.sweep block.time keeper.store = .ok (next, planned)) {bank bank' : β}
    (paid : planned.foldlM (fun bank s => Bank.payOut bank s.payouts) bank = .ok bank') :
    endRound block ⟨keeper, bank⟩ = .ok ⟨block.height, planned, []⟩ ⟨{ keeper with store := next }, bank'⟩ := by
  rw [endRound_eq_settlePlanned ownId swept, (Settlement.sweep_eq_ok swept).2, ← List.append_nil planned]
  rw [settlePlanned_append paid]
  simp [settlePlanned, Ledger.withStore]

lemma endRound_of_refused (ownId : ∀ id game, keeper.store.game? id = some game → game.id = id)
    (swept : Settlement.sweep block.time keeper.store = .ok (next, planned)) (hpolicy : keeper.policy = .failFast)
    {before after : List Settlement} {s : Settlement} {bank bank' : β} {e : LedgerError}
    (split : planned = before ++ s :: after)
    (paid : before.foldlM (fun bank s => Bank.payOut bank s.payouts) bank = .ok bank')
    (refused : Bank.payOut bank' s.payouts = .error e) :
    endRound block ⟨keeper, bank⟩ = .error (.settlement s.game e)
      ⟨{ keeper with store := keeper.store.without (before.map (·.game)) }, bank'⟩ := by
  rw [endRound_eq_settlePlanned ownId swept, split, settlePlanned_append paid, settlePlanned]
  simp only [Ledger.withStore, refused, hpolicy]

end Transaction

lemma Settlement.not_mem_before {before after : List Settlement} {s : Settlement}
    (h : ((before ++ s :: after).map (·.game)).Pairwise (· < ·)) {id : GameId} (hid : s.game ≤ id) :
    id ∉ before.map (·.game) := by
  rw [List.map_append, List.map_cons, List.pairwise_append] at h
  intro hmem
  exact UInt64.not_lt.mpr hid (h.2.2 id hmem s.game List.mem_cons_self)

namespace Node

variable {α : Type} {node node' : Node} {time : Instant} {tx : Block → Transaction Bech32Codec Accounts α}
  {delivery : Delivery α}

lemma transact_eq_ok {r : Except GameError α} {tx : Transaction Bech32Codec Accounts α}
    (h : transact tx node = .ok r node') :
    node'.ledger = tx.after node.ledger ∧ r = tx.answer node.ledger := by
  simp only [transact] at h
  simp only [Transaction.after, Transaction.answer]
  cases htx : tx node.ledger <;> rw [htx] at h <;> cases h <;> exact ⟨rfl, rfl⟩

lemma onLedger_eq_ok {x : Except LedgerError α} {a : α} (h : onLedger x node = .ok a node') :
    x = .ok a ∧ node' = node := by
  cases x with
  | error e => cases h
  | ok b =>
    cases h
    exact ⟨rfl, rfl⟩

lemma onGame_eq_ok {x : Except GameError α} {a : α} (h : onGame x node = .ok a node') : x = .ok a ∧ node' = node := by
  cases x with
  | error e => cases h
  | ok b =>
    cases h
    exact ⟨rfl, rfl⟩

lemma deliver_round (quiet : ∀ block, (tx block).after node.ledger = node.ledger)
    (delivered : deliver time tx node = .ok delivery node') :
    delivery.block.time = time ∧ delivery.round = (Transaction.endRound delivery.block).answer node.ledger := by
  simp only [deliver, action_bind_eq_ok_iff] at delivered
  obtain ⟨_, _, hget, block, _, hblock, r, transacted, htx, output, _, hout, _, _, hmodify, round, _, hround, _, _, _,
    hdelivery⟩ := delivered
  cases hget
  obtain ⟨hnext, rfl⟩ := onLedger_eq_ok hblock
  obtain ⟨hledger, _⟩ := transact_eq_ok htx
  obtain ⟨_, rfl⟩ := onGame_eq_ok hout
  cases hmodify
  obtain ⟨_, hr⟩ := transact_eq_ok hround
  cases hdelivery
  rw [quiet] at hledger
  simp only [hledger] at hr
  refine ⟨?_, hr⟩
  simp only [Block.next] at hnext
  split at hnext
  · cases hnext
  · obtain rfl := Except.ok.inj hnext
    rfl

end Node

/-- Where the bank pays every batch, a round does what the sweep planned. Where it does not, the policy decides: the
accepted batches are settled and the others deferred, or the round stops at the first refusal. So an empty block
settles what was pending at its time. -/
theorem Settlement.sweep_agrees_with_round :
    (∀ {κ β : Type} [Bank β] {keeper : Keeper κ} {bank : β} {block : Block} {next : GameStore}
      {planned : List Settlement}, (∀ id game, keeper.store.game? id = some game → game.id = id) →
      sweep block.time keeper.store = .ok (next, planned) →
        (∀ bank', planned.foldlM (fun bank s => Bank.payOut bank s.payouts) bank = .ok bank' →
          Transaction.endRound block ⟨keeper, bank⟩ =
            .ok ⟨block.height, planned, []⟩ ⟨{ keeper with store := next }, bank'⟩) ∧
        (keeper.policy = .deferFailed →
          Transaction.endRound block ⟨keeper, bank⟩ =
            .ok ⟨block.height, accepted bank planned, (rejected bank planned).map (·.game)⟩
              ⟨{ keeper with store := keeper.store.without ((accepted bank planned).map (·.game)) },
                bankAfter bank planned⟩ ∧
          ((accepted bank planned).map (·.game)).Pairwise (· < ·) ∧
          ((rejected bank planned).map (·.game)).Pairwise (· < ·)) ∧
        (keeper.policy = .failFast → ∀ before s after bank' e, planned = before ++ s :: after →
          before.foldlM (fun bank s => Bank.payOut bank s.payouts) bank = .ok bank' →
          Bank.payOut bank' s.payouts = .error e →
          Transaction.endRound block ⟨keeper, bank⟩ =
            .error (.settlement s.game e)
              ⟨{ keeper with store := keeper.store.without (before.map (·.game)) }, bank'⟩ ∧
          ∀ id, s.game ≤ id →
            (keeper.store.without (before.map (·.game))).game? id = keeper.store.game? id ∧
            (keeper.store.without (before.map (·.game))).commitsOf id = keeper.store.commitsOf id ∧
            (keeper.store.without (before.map (·.game))).revealsOf id = keeper.store.revealsOf id)) ∧
      ∀ {node node' : Node} {time : Instant} {next : GameStore} {planned : List Settlement} {bank' : Accounts}
        {α : Type} {tx : Block → Transaction Bech32Codec Accounts α} {delivery : Delivery α},
        (∀ id game, node.keeper.store.game? id = some game → game.id = id) →
        node.pending time = .ok (next, planned) →
        planned.foldlM (fun bank s => Bank.payOut bank s.payouts) node.accounts = .ok bank' →
        (∀ block, (tx block).after node.ledger = node.ledger) → node.deliver time tx = .ok delivery node' →
        delivery.round = .ok ⟨delivery.block.height, planned, []⟩ := by
  constructor
  · intro κ β _ keeper bank block next planned ownId swept
    have hsorted := sweep_sorted ownId swept
    refine ⟨fun bank' paid => Transaction.endRound_of_paid ownId swept paid, fun hpolicy => ⟨?_, ?_, ?_⟩, ?_⟩
    · rw [Transaction.endRound_eq_settlePlanned ownId swept, Transaction.settlePlanned_defer planned _ hpolicy]
      rfl
    · exact hsorted.sublist ((filter_offers_sublist bank planned _).map _)
    · exact hsorted.sublist ((filter_offers_sublist bank planned _).map _)
    · intro hpolicy before s after bank' e split paid refused
      refine ⟨Transaction.endRound_of_refused ownId swept hpolicy split paid refused, fun id hid => ?_⟩
      have hkept := not_mem_before (split ▸ hsorted) hid
      rw [GameStore.game?_without, GameStore.commitsOf_without, GameStore.revealsOf_without, if_neg hkept,
        if_neg hkept, if_neg hkept]
      exact ⟨rfl, rfl, rfl⟩
  · intro node node' time next planned bank' α tx delivery ownId pending paid quiet delivered
    obtain ⟨rfl, hround⟩ := Node.deliver_round quiet delivered
    exact hround.trans (Transaction.answer_eq_ok (Transaction.endRound_of_paid ownId pending paid))

namespace Sample

def settlement : Settlement := ⟨0, .forfeit ⟨[2]⟩, [⟨⟨[2]⟩, ⟨10⟩⟩]⟩

lemma sweep_loaded : Settlement.sweep .epoch loaded.store = .ok (loaded.store.without [0], [settlement]) := by
  decide +kernel

def paid : Accounts :=
  { ledger.bank with pool := .zero, balances := ledger.bank.balances.insert ⟨[2]⟩ ⟨10⟩ }

lemma pay_settlement :
    [settlement].foldlM (fun bank s => Bank.payOut bank s.payouts) ledger.bank = .ok paid := by decide +kernel

def block : Block := ⟨1, .epoch⟩

def deferring : Keeper Bech32Codec := { loaded with policy := .deferFailed }

def node : Node := ⟨.genesis .epoch, ledger, .empty⟩

lemma deliver_node : ∃ (delivery : Delivery Unit) (next : Node),
    node.deliver .epoch (fun _ => pure ()) = .ok delivery next := by
  have hok : (match Node.deliver .epoch (fun _ => pure ()) node with
      | .ok (_ : Delivery Unit) _ => true
      | .error _ _ => false) = true := by decide +kernel
  cases hd : Node.deliver .epoch (fun _ => pure ()) node with
  | ok delivery next => exact ⟨delivery, next, rfl⟩
  | error e next =>
    rw [hd] at hok
    cases hok

end Sample

theorem Settlement.sweep_agrees_with_round_loaded :
    Transaction.endRound Sample.block ⟨Sample.loaded, Sample.ledger.bank⟩ =
      .ok ⟨1, [Sample.settlement], []⟩ ⟨{ Sample.loaded with store := Sample.loaded.store.without [0] }, Sample.paid⟩ ∧
    (∃ ledger, Transaction.endRound Sample.block ⟨Sample.deferring, Sample.full.bank⟩ = .ok ⟨1, [], [0]⟩ ledger) ∧
    Transaction.endRound Sample.block ⟨Sample.loaded, Sample.full.bank⟩ =
      .error (.settlement 0 (.overflow "balance of 02"))
        ⟨{ Sample.loaded with store := Sample.loaded.store.without [] }, Sample.full.bank⟩ ∧
    ∃ (delivery : Delivery Unit) (next : Node), Sample.node.deliver .epoch (fun _ => pure ()) = .ok delivery next ∧
      delivery.round = .ok ⟨delivery.block.height, [Sample.settlement], []⟩ := by
  have ownId : ∀ id game, Sample.loaded.store.game? id = some game → game.id = id :=
    fun id game => Sample.loaded_reachable.wellFormed.ownId
  have swept : sweep Sample.block.time Sample.loaded.store =
      .ok (Sample.loaded.store.without [0], [Sample.settlement]) := Sample.sweep_loaded
  have ownId' : ∀ id game, Sample.deferring.store.game? id = some game → game.id = id := ownId
  have swept' : sweep Sample.block.time Sample.deferring.store =
      .ok (Sample.loaded.store.without [0], [Sample.settlement]) := swept
  have hpolicy : Sample.deferring.policy = .deferFailed := rfl
  have hrejected : rejected Sample.full.bank [Sample.settlement] = [Sample.settlement] := by decide +kernel
  have haccepted : accepted Sample.full.bank [Sample.settlement] = [] := by decide +kernel
  have hrefused : Bank.payOut Sample.full.bank Sample.settlement.payouts =
      .error (.overflow "balance of 02") := by decide +kernel
  refine ⟨?_, ?_, ?_, ?_⟩
  · exact (sweep_agrees_with_round.1 ownId swept).1 Sample.paid Sample.pay_settlement
  · obtain ⟨agrees, _⟩ := sweep_agrees_with_round
    obtain ⟨hend, _⟩ := (@agrees _ _ _ _ Sample.full.bank _ _ _ ownId' swept').2.1 hpolicy
    rw [haccepted, hrejected] at hend
    exact ⟨_, hend⟩
  · exact ((sweep_agrees_with_round.1 ownId swept).2.2 rfl [] Sample.settlement [] Sample.full.bank _
      rfl rfl hrefused).1
  · obtain ⟨delivery, next, delivered⟩ := Sample.deliver_node
    have ownId' : ∀ id game, Sample.node.keeper.store.game? id = some game → game.id = id := ownId
    have hpending : Sample.node.pending .epoch = .ok (Sample.loaded.store.without [0], [Sample.settlement]) := swept
    exact ⟨delivery, next, delivered,
      sweep_agrees_with_round.2 ownId' hpending Sample.pay_settlement (fun _ => rfl) delivered⟩

end Roshambo
