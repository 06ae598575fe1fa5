import Mathlib.Logic.Relation
import Roshambo.Proofs.Round

/-! Every call is a chain of steps, each one write that has passed its checks. -/

namespace Roshambo

inductive Call
  | startGame (block : Block) (player : String) (commitment : Commitment) (fee : Amount)
  | commitMove (block : Block) (id : GameId) (player : String) (commitment : Commitment)
  | revealMove (block : Block) (id : GameId) (player label salt : String)
  | updateParams (authority : String) (params : Params)
  | endRound (block : Block)
  deriving DecidableEq

variable {κ β α : Type}

def Transaction.after (tx : Transaction κ β α) (ledger : Ledger κ β) : Ledger κ β :=
  match tx ledger with
  | .ok _ l => l
  | .error _ l => l

def Transaction.answer (tx : Transaction κ β α) (ledger : Ledger κ β) : Except GameError α :=
  match tx ledger with
  | .ok a _ => .ok a
  | .error e _ => .error e

lemma Transaction.answer_eq_ok {tx : Transaction κ β α} {ledger next : Ledger κ β} {a : α}
    (h : tx ledger = .ok a next) : tx.answer ledger = .ok a := by
  rw [answer, h]

variable [AddressCodec κ] [Bank β]

def Call.apply (call : Call) (ledger : Ledger κ β) : Ledger κ β :=
  match call with
  | startGame block player commitment fee => (Transaction.startGame block player commitment fee).after ledger
  | commitMove block id player commitment => (Transaction.commitMove block id player commitment).after ledger
  | revealMove block id player label salt => (Transaction.revealMove block id player label salt).after ledger
  | updateParams authority params => (Transaction.updateParams authority params).after ledger
  | endRound block => (Transaction.endRound block).after ledger

inductive Step : Ledger κ β → Ledger κ β → Prop
  | start {ledger : Ledger κ β} {block : Block} {player : String} {commitment : Commitment} {fee : Amount}
      {creator : Address} {closing : Instant} {bank : β}
      (admitted : ledger.keeper.admitStart block.time player fee = .ok (creator, closing))
      (staked : Bank.deposit ledger.bank creator fee = .ok bank) :
      Step ledger (Ledger.withStore { ledger with bank := bank }
        (ledger.keeper.store.start creator fee closing ⟨commitment, block.time⟩))
  | join {ledger : Ledger κ β} {block : Block} {id : GameId} {player : String} {commitment : Commitment}
      {joiner : Address} {fee : Amount} {bank : β}
      (admitted : ledger.keeper.admitCommit block.time id player = .ok (joiner, fee))
      (staked : Bank.deposit ledger.bank joiner fee = .ok bank) :
      Step ledger (Ledger.withStore { ledger with bank := bank }
        (ledger.keeper.store.setCommit id joiner ⟨commitment, block.time⟩))
  | firstReveal {ledger : Ledger κ β} {block : Block} {id : GameId} {text label salt : String}
      {player : Address} {move : Move} {game : Game} {closing : Instant}
      (admitted : ledger.keeper.admitReveal block.time id text label salt = .ok (player, move, game))
      (unset : game.revealDeadline = none)
      (closes : Keeper.deadline block.time ledger.keeper.params.revealWindow "reveal deadline" = .ok closing) :
      Step ledger (ledger.withStore ((ledger.keeper.store.setGame
        { game with revealDeadline := some closing }).setReveal id player ⟨move, salt, block.time⟩))
  | reveal {ledger : Ledger κ β} {block : Block} {id : GameId} {text label salt : String}
      {player : Address} {move : Move} {game : Game} {closing : Instant}
      (admitted : ledger.keeper.admitReveal block.time id text label salt = .ok (player, move, game))
      (closes : game.revealDeadline = some closing) :
      Step ledger (ledger.withStore (ledger.keeper.store.setReveal id player ⟨move, salt, block.time⟩))
  | setParams {ledger : Ledger κ β} {authority : String} {params : Params} {keeper : Keeper κ}
      (accepted : ledger.keeper.updateParams authority params = .ok keeper) :
      Step ledger { ledger with keeper := keeper }
  | settle {ledger next : Ledger κ β} {now : Instant} {id : GameId} {s : Settlement}
      (settled : Transaction.settleGame now id ledger = .ok (some (s, next))) : Step ledger next

abbrev Steps : Ledger κ β → Ledger κ β → Prop := Relation.ReflTransGen Step

namespace Transaction

lemma settleGames_steps (now : Instant) (ids : List GameId) (report : SweepReport) (ledger : Ledger κ β) :
    Steps ledger ((settleGames now ids report).after ledger) := by
  induction ids generalizing report ledger with
  | nil => exact .refl
  | cons id rest ih =>
    rw [after, settleGames_cons]
    cases h : settleGame now id ledger with
    | error e =>
      cases ledger.keeper.policy with
      | failFast => exact .refl
      | deferFailed => exact ih _ _
    | ok done =>
      cases done with
      | none => exact ih _ _
      | some done => exact .head (.settle h) (ih _ _)

end Transaction

lemma Call.apply_steps (call : Call) (ledger : Ledger κ β) : Steps ledger (call.apply ledger) := by
  cases call with
  | startGame block player commitment fee =>
    rw [apply, Transaction.after, Transaction.startGame_eq]
    cases admitted : ledger.keeper.admitStart block.time player fee with
    | error e => exact .refl
    | ok entry =>
      cases staked : Bank.deposit ledger.bank entry.1 fee with
      | error e => simp only [staked]; exact .refl
      | ok bank => simp only [staked]; exact .single (.start admitted staked)
  | commitMove block id player commitment =>
    rw [apply, Transaction.after, Transaction.commitMove_eq]
    cases admitted : ledger.keeper.admitCommit block.time id player with
    | error e => exact .refl
    | ok entry =>
      cases staked : Bank.deposit ledger.bank entry.1 entry.2 with
      | error e => simp only [staked]; exact .refl
      | ok bank => simp only [staked]; exact .single (.join admitted staked)
  | revealMove block id text label salt =>
    rw [apply, Transaction.after, Transaction.revealMove_eq]
    cases admitted : ledger.keeper.admitReveal block.time id text label salt with
    | error e => exact .refl
    | ok entry =>
      obtain ⟨player, move, game⟩ := entry
      cases deadline : game.revealDeadline with
      | some closing => simp only [deadline]; exact .single (.reveal admitted deadline)
      | none =>
        cases closes : Keeper.deadline block.time ledger.keeper.params.revealWindow "reveal deadline" with
        | error e => simp only [deadline]; exact .refl
        | ok closing => simp only [deadline]; exact .single (.firstReveal admitted deadline closes)
  | updateParams authority params =>
    rw [apply, Transaction.after, Transaction.updateParams_eq]
    cases accepted : ledger.keeper.updateParams authority params with
    | error e => exact .refl
    | ok keeper => exact .single (.setParams accepted)
  | endRound block => exact Transaction.settleGames_steps _ _ _ _

end Roshambo
