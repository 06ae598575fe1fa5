import Mathlib.Data.List.Induction
import Roshambo.Proofs.Payments
import Roshambo.Proofs.Reachability

/-! Histories: calls one after the other, each with the bank that it meets. A turn makes at most one write to the
records, or it closes the games that it has paid. -/

namespace Roshambo

variable {κ β α : Type} [AddressCodec κ] [Bank β]

structure Turn (β : Type) where
  call : Call
  bank : β

namespace Turn

def next (turn : Turn β) (keeper : Keeper κ) : Keeper κ := (turn.call.apply ⟨keeper, turn.bank⟩).keeper

def started (turn : Turn β) (keeper : Keeper κ) : Option GameId :=
  match turn.call with
  | .startGame block player commitment fee =>
    ((Transaction.startGame block player commitment fee).answer ⟨keeper, turn.bank⟩).toOption
  | _ => none

def paid (turn : Turn β) (keeper : Keeper κ) : List Settlement :=
  match turn.call with
  | .endRound block => Transaction.paid block ⟨keeper, turn.bank⟩
  | _ => []

inductive Effect (turn : Turn β) (keeper : Keeper κ) : GameStore → Prop
  | quiet (started : turn.started keeper = none) (paid : turn.paid keeper = []) : Effect turn keeper keeper.store
  | start {block : Block} {player : String} {commitment : Commitment} {fee : Amount} {creator : Address}
      {closing : Instant} (call : turn.call = .startGame block player commitment fee)
      (admitted : keeper.admitStart block.time player fee = .ok (creator, closing))
      (started : turn.started keeper = some keeper.store.nextId) :
      Effect turn keeper (keeper.store.start creator fee closing ⟨commitment, block.time⟩)
  | join {block : Block} {id : GameId} {player : String} {commitment : Commitment} {joiner : Address} {fee : Amount}
      (call : turn.call = .commitMove block id player commitment)
      (admitted : keeper.admitCommit block.time id player = .ok (joiner, fee)) :
      Effect turn keeper (keeper.store.setCommit id joiner ⟨commitment, block.time⟩)
  | firstReveal {block : Block} {id : GameId} {text label salt : String} {player : Address} {move : Move} {game : Game}
      (closing : Instant) (call : turn.call = .revealMove block id text label salt)
      (admitted : keeper.admitReveal block.time id text label salt = .ok (player, move, game))
      (unset : game.revealDeadline = none)
      (closes : Keeper.deadline block.time keeper.params.revealWindow "reveal deadline" = .ok closing) :
      Effect turn keeper ((keeper.store.setGame { game with revealDeadline := some closing }).setReveal id player
        ⟨move, salt, block.time⟩)
  | reveal {block : Block} {id : GameId} {text label salt : String} {player : Address} {move : Move} {game : Game}
      {closing : Instant} (call : turn.call = .revealMove block id text label salt)
      (admitted : keeper.admitReveal block.time id text label salt = .ok (player, move, game))
      (closes : game.revealDeadline = some closing) :
      Effect turn keeper (keeper.store.setReveal id player ⟨move, salt, block.time⟩)
  | round {block : Block} (call : turn.call = .endRound block) :
      Effect turn keeper (keeper.store.without ((turn.paid keeper).map (·.game)))

variable {turn : Turn β} {keeper : Keeper κ}

theorem effect (ownIds : keeper.store.OwnIds) : turn.Effect keeper (turn.next keeper).store := by
  obtain ⟨call, bank⟩ := turn
  cases call with
  | startGame block player commitment fee =>
    rw [next, Call.apply, Transaction.after, Transaction.startGame_eq]
    cases admitted : keeper.admitStart block.time player fee with
    | error e =>
      refine .quiet ?_ rfl
      simp only [Turn.started, Transaction.answer, Transaction.startGame_eq, admitted, Except.toOption]
    | ok entry =>
      cases staked : Bank.deposit bank entry.1 fee with
      | error e =>
        simp only [staked]
        refine .quiet ?_ rfl
        simp only [Turn.started, Transaction.answer, Transaction.startGame_eq, admitted, staked, Except.toOption]
      | ok bank =>
        simp only [staked]
        refine .start rfl admitted ?_
        simp only [Turn.started, Transaction.answer, Transaction.startGame_eq, admitted, staked, Except.toOption]
  | commitMove block id player commitment =>
    rw [next, Call.apply, Transaction.after, Transaction.commitMove_eq]
    cases admitted : keeper.admitCommit block.time id player with
    | error e => exact .quiet rfl rfl
    | ok entry =>
      cases staked : Bank.deposit bank entry.1 entry.2 with
      | error e => simp only [staked]; exact .quiet rfl rfl
      | ok bank => simp only [staked]; exact .join rfl admitted
  | revealMove block id text label salt =>
    rw [next, Call.apply, Transaction.after, Transaction.revealMove_eq]
    cases admitted : keeper.admitReveal block.time id text label salt with
    | error e => exact .quiet rfl rfl
    | ok entry =>
      obtain ⟨player, move, game⟩ := entry
      cases deadline : game.revealDeadline with
      | some closing => simp only [deadline]; exact .reveal rfl admitted deadline
      | none =>
        cases closes : Keeper.deadline block.time keeper.params.revealWindow "reveal deadline" with
        | error e => simp only [deadline]; exact .quiet rfl rfl
        | ok closing => simp only [deadline]; exact .firstReveal closing rfl admitted deadline closes
  | updateParams authority params =>
    rw [next, Call.apply, Transaction.after, Transaction.updateParams_eq]
    cases accepted : keeper.updateParams authority params with
    | error e => exact .quiet rfl rfl
    | ok keeper' =>
      obtain ⟨_, _, _, rfl⟩ := Keeper.updateParams_eq_ok_iff.mp accepted
      exact .quiet rfl rfl
  | endRound block =>
    obtain ⟨_, _, hafter⟩ := @Transaction.endRound_after _ _ _ ⟨keeper, bank⟩ ownIds block
    rw [next, Call.apply, hafter]
    exact .round rfl

lemma next_wellFormed (h : keeper.store.WellFormed keeper.codec) :
    (turn.next keeper).store.WellFormed (turn.next keeper).codec :=
  (turn.call.apply_steps ⟨keeper, turn.bank⟩).wellFormed h

omit [AddressCodec κ] in
lemma paid_eq_nil (h : ∀ block, turn.call ≠ .endRound block) : turn.paid keeper = [] := by
  obtain ⟨call, bank⟩ := turn
  cases call with
  | endRound block => exact (h block rfl).elim
  | _ => rfl

omit [AddressCodec κ] in
lemma stored_of_mem_paid (ownIds : keeper.store.OwnIds) {s : Settlement} (h : s ∈ turn.paid keeper) :
    keeper.store.game? s.game ≠ none := by
  obtain ⟨call, bank⟩ := turn
  cases call with
  | endRound block =>
    obtain ⟨game, hgame, _⟩ := @Transaction.due_of_mem_paid _ _ _ ⟨keeper, bank⟩ _ ownIds _ h
    exact hgame ▸ Option.some_ne_none game
  | _ => cases h

end Turn

namespace Keeper

variable {keeper : Keeper κ} {turn : Turn β} {before later turns : List (Turn β)}

def after (keeper : Keeper κ) (turns : List (Turn β)) : Keeper κ :=
  turns.foldl (fun keeper turn => turn.next keeper) keeper

def gather (f : Turn β → Keeper κ → List α) (keeper : Keeper κ) : List (Turn β) → List α
  | [] => []
  | turn :: rest => f turn keeper ++ gather f (turn.next keeper) rest

def started (keeper : Keeper κ) (turns : List (Turn β)) : List GameId :=
  keeper.gather (fun turn keeper => (turn.started keeper).toList) turns

def paid (keeper : Keeper κ) (turns : List (Turn β)) : List Settlement := keeper.gather Turn.paid turns

lemma after_append : keeper.after (before ++ later) = (keeper.after before).after later := List.foldl_append

lemma after_concat : keeper.after (turns ++ [turn]) = turn.next (keeper.after turns) := after_append

lemma gather_append {f : Turn β → Keeper κ → List α} :
    keeper.gather f (before ++ later) = keeper.gather f before ++ (keeper.after before).gather f later := by
  induction before generalizing keeper with
  | nil => rfl
  | cons turn rest ih => rw [List.cons_append, gather, gather, ih, List.append_assoc]; rfl

lemma gather_concat {f : Turn β → Keeper κ → List α} :
    keeper.gather f (turns ++ [turn]) = keeper.gather f turns ++ f turn (keeper.after turns) := by
  rw [gather_append, gather, gather, List.append_nil]

lemma exists_turn {f : Turn β → Keeper κ → List α} {a : α} (h : a ∈ keeper.gather f turns) :
    ∃ before turn later, turns = before ++ turn :: later ∧ a ∈ f turn (keeper.after before) := by
  induction turns generalizing keeper with
  | nil => cases h
  | cons turn rest ih =>
    rcases List.mem_append.mp h with h | h
    · exact ⟨[], turn, rest, rfl, h⟩
    · obtain ⟨before, turn', later, hsplit, h⟩ := ih h
      exact ⟨turn :: before, turn', later, congrArg (turn :: ·) hsplit, h⟩

lemma after_wellFormed (h : keeper.store.WellFormed keeper.codec) (turns : List (Turn β)) :
    (keeper.after turns).store.WellFormed (keeper.after turns).codec := by
  induction turns generalizing keeper with
  | nil => exact h
  | cons turn rest ih => exact ih (Turn.next_wellFormed h)

lemma Reachable.after (reachable : keeper.Reachable) (turns : List (Turn β)) : (keeper.after turns).Reachable := by
  induction turns generalizing keeper with
  | nil => exact reachable
  | cons turn rest ih => exact ih (.call reachable turn.call turn.bank)

lemma after_ownIds (h : keeper.store.WellFormed keeper.codec) (turns : List (Turn β)) :
    (keeper.after turns).store.OwnIds :=
  fun _ _ => (after_wellFormed h turns).ownId

lemma effect_after (h : keeper.store.WellFormed keeper.codec) (turns : List (Turn β)) (turn : Turn β) :
    turn.Effect (keeper.after turns) (keeper.after (turns ++ [turn])).store := by
  rw [after_concat]
  exact Turn.effect (after_ownIds h turns)

theorem history_induction {holds : List (Turn β) → Prop} (h : keeper.store.WellFormed keeper.codec) (nil : holds [])
    (concat : ∀ turns turn, (keeper.after turns).store.WellFormed (keeper.after turns).codec →
      turn.Effect (keeper.after turns) (keeper.after (turns ++ [turn])).store → holds turns →
      holds (turns ++ [turn])) (turns : List (Turn β)) : holds turns := by
  induction turns using List.reverseRecOn with
  | nil => exact nil
  | append_singleton turns turn ih => exact concat turns turn (after_wellFormed h turns) (effect_after h turns turn) ih

end Keeper

end Roshambo
