import Roshambo.Proofs.Delays
import Roshambo.Proofs.WriteOnce

namespace Roshambo

namespace Settlement

variable {now : Instant} {store : GameStore} {game : Game} {s : Settlement} {prize : Amount}
  {commits : List (Address × MoveCommit)} {reveals : List (Address × MoveReveal)}

lemma resolution_unjoined : (unjoined game commits).resolution ≠ .abandoned ∧
    ((unjoined game commits).resolution = .empty → commits = []) := by
  cases commits with
  | nil => exact ⟨nofun, fun _ => rfl⟩
  | cons c rest => exact ⟨nofun, nofun⟩

lemma resolution_showdown (first second : Address × MoveReveal) :
    (showdown game prize first second).resolution ≠ .abandoned ∧
      (showdown game prize first second).resolution ≠ .empty := by
  simp only [showdown]
  split <;> simp

lemma resolution_joined : (joined game prize commits reveals).resolution ≠ .empty ∧
    ((joined game prize commits reveals).resolution = .abandoned → reveals = []) := by
  rcases reveals with _ | ⟨first, _ | ⟨second, rest⟩⟩
  · exact ⟨nofun, fun _ => rfl⟩
  · exact ⟨nofun, nofun⟩
  · obtain ⟨habandoned, hempty⟩ := @resolution_showdown game prize first second
    exact ⟨hempty, fun h => (habandoned h).elim⟩

lemma commitsOf_of_empty (h : plan now store game = .ok (some s)) (hempty : s.resolution = .empty) :
    store.commitsOf game.id = [] := by
  rcases plan_eq_some_iff.mp h with ⟨_, _, rfl⟩ | ⟨_, _, _, _, _, _, rfl⟩
  · exact resolution_unjoined.2 hempty
  · exact (resolution_joined.1 hempty).elim

lemma unanswered_of_abandoned (h : plan now store game = .ok (some s)) (habandoned : s.resolution = .abandoned) :
    game.revealDeadline ≠ none ∧ store.revealsOf game.id = [] := by
  rcases plan_eq_some_iff.mp h with ⟨_, _, rfl⟩ | ⟨_, deadline, _, hdeadline, _, _, rfl⟩
  · exact (resolution_unjoined.1 habandoned).elim
  · exact ⟨hdeadline ▸ Option.some_ne_none deadline, resolution_joined.2 habandoned⟩

end Settlement

def GameStore.Unanswered (store : GameStore) (id : GameId) : Prop :=
  ∃ game, store.game? id = some game ∧ game.revealDeadline ≠ none ∧ store.revealsOf id = []

variable {κ β : Type} [AddressCodec κ] [Bank β]

def Turn.revealed (turn : Turn β) (keeper : Keeper κ) : Option GameId :=
  match turn.call with
  | .revealMove block id text label salt =>
    match (Transaction.revealMove block id text label salt).answer ⟨keeper, turn.bank⟩ with
    | .ok () => some id
    | .error _ => none
  | _ => none

def Keeper.revealed (keeper : Keeper κ) (turns : List (Turn β)) : List GameId :=
  keeper.gather (fun turn keeper => (turn.revealed keeper).toList) turns

inductive Keeper.Settles (keeper : Keeper κ) (s : Settlement) : Prop
  | previewed {now : Instant} {next : GameStore} {planned : List Settlement}
      (swept : Settlement.sweep now keeper.store = .ok (next, planned)) (mem : s ∈ planned)
  | planned {now : Instant} {gone : List GameId} (due : Settlement.Due now (keeper.store.without gone) s)
  | paid {β : Type} [Bank β] (turn : Turn β) (mem : s ∈ turn.paid keeper)

open Settlement

variable {keeper : Keeper κ} {turn : Turn β} {store : GameStore} {id : GameId} {s : Settlement}

lemma Keeper.Settles.due (settles : keeper.Settles s) (h : keeper.store.WellFormed keeper.codec) :
    ∃ now, Due now keeper.store s := by
  have ownIds : keeper.store.OwnIds := fun _ _ => h.ownId
  cases settles with
  | @previewed now _ _ swept mem =>
    obtain ⟨planned, hsweep, hmem, _⟩ := exists_sweep h now
    obtain ⟨_, rfl⟩ := Prod.mk.inj (Except.ok.inj (hsweep.symm.trans swept))
    exact ⟨now, (hmem s).mp mem⟩
  | @planned now _ due => exact ⟨now, (due_without.mp due).1⟩
  | paid turn mem =>
    obtain ⟨call, bank⟩ := turn
    cases call with
    | endRound block => exact ⟨block.time, @Transaction.due_of_mem_paid _ _ _ ⟨keeper, bank⟩ _ ownIds _ mem⟩
    | _ => cases mem

namespace Turn

lemma Effect.stored_of_deadline (effect : turn.Effect keeper store) (h : keeper.store.WellFormed keeper.codec)
    {game : Game} (left : store.game? id = some game) (set : game.revealDeadline ≠ none) :
    ∃ game', keeper.store.game? id = some game' := by
  cases effect with
  | quiet _ _
  | join _ _
  | reveal _ _ _ => exact ⟨game, left⟩
  | start _ _ _ =>
    rw [GameStore.game?_start] at left
    split at left
    · obtain rfl := Option.some.inj left
      exact (set rfl).elim
    · exact ⟨game, left⟩
  | firstReveal _ _ admitted _ _ =>
    obtain ⟨_, _, hshown, _⟩ := Keeper.admitReveal_eq_ok_iff.mp admitted
    rw [GameStore.game?_setReveal, GameStore.game?_setGame, h.ownId hshown] at left
    split at left
    · rename_i hid
      exact ⟨_, hid ▸ hshown⟩
    · exact ⟨game, left⟩
  | round _ =>
    rw [GameStore.game?_without] at left
    split at left
    · cases left
    · exact ⟨game, left⟩

lemma Effect.unanswered (effect : turn.Effect keeper store) (h : keeper.store.WellFormed keeper.codec)
    (unanswered : store.Unanswered id) : keeper.store.Unanswered id := by
  obtain ⟨game, left, set, hnone⟩ := unanswered
  have stored : store.game? id ≠ none := left ▸ Option.some_ne_none game
  obtain ⟨game', met⟩ := effect.stored_of_deadline h left set
  have hbefore : keeper.store.revealsOf id = [] := by
    rw [List.eq_nil_iff_forall_not_mem] at hnone ⊢
    rintro ⟨player, reveal⟩ hmem
    exact hnone _ (GameStore.mem_ofGame.mpr (effect.reveal_kept stored (GameStore.mem_ofGame.mp hmem)))
  rcases effect.game_kept h met left with rfl | ⟨_, _, _, hfirst⟩
  · exact ⟨game, met, set, hbefore⟩
  · obtain ⟨_, _, _, _, player, reveal, _, _, hafter⟩ := hfirst
    rw [hnone] at hafter
    cases hafter

lemma revealed_ne (unanswered : (turn.next keeper).store.Unanswered id) : turn.revealed keeper ≠ some id := by
  intro hrevealed
  obtain ⟨call, bank⟩ := turn
  cases call with
  | revealMove block shown text label salt =>
    cases accepted : Transaction.revealMove block shown text label salt ⟨keeper, bank⟩ with
    | error e next =>
      simp only [revealed, Transaction.answer, accepted] at hrevealed
      cases hrevealed
    | ok _ next =>
      simp only [revealed, Transaction.answer, accepted] at hrevealed
      obtain rfl := Option.some.inj hrevealed
      obtain ⟨game, _, _, hnone⟩ := unanswered
      rw [Turn.next, Call.apply, Transaction.after, accepted] at hnone
      obtain ⟨player, move, _, _, hnext⟩ := Transaction.revealMove_eq_ok accepted
      have hreveal : next.keeper.store.reveals.get? ⟨shown, player⟩ = some ⟨move, salt, block.time⟩ := by
        rcases hnext with rfl | ⟨_, rfl⟩ <;>
          simp only [Ledger.withStore, GameStore.reveals_setReveal, SortedMap.get?_insert, if_true]
      have hmem := GameStore.mem_ofGame.mpr hreveal
      rw [← GameStore.revealsOf, hnone] at hmem
      cases hmem
  | _ => cases hrevealed

end Turn

namespace Keeper

lemma unanswered_since (h : keeper.store.WellFormed keeper.codec) {turns : List (Turn β)}
    (unanswered : (keeper.after turns).store.Unanswered id) :
    keeper.store.Unanswered id ∧ id ∉ keeper.revealed turns := by
  induction turns using @history_induction _ β _ _ _ _ h with
  | nil => exact ⟨unanswered, List.not_mem_nil⟩
  | concat turns turn hmet effect ih =>
    obtain ⟨hstart, hsince⟩ := ih (effect.unanswered hmet unanswered)
    rw [after_concat] at unanswered
    refine ⟨hstart, ?_⟩
    rw [revealed, gather_concat, List.mem_append, Option.mem_toList]
    exact not_or.mpr ⟨hsince, Turn.revealed_ne unanswered⟩

lemma Settles.resolution_ne_empty (h : keeper.store.WellFormed keeper.codec) (settles : keeper.Settles s) :
    s.resolution ≠ .empty := by
  intro hempty
  obtain ⟨now, game, hgame, hplan⟩ := settles.due h
  have hcommits := commitsOf_of_empty hplan hempty
  rw [← plan_game hplan] at hcommits
  have hcount := h.oneOrTwo hgame
  rw [GameStore.commitCount, hcommits] at hcount
  rcases hcount with hcount | hcount <;> cases hcount

lemma Settles.unanswered (h : keeper.store.WellFormed keeper.codec) (settles : keeper.Settles s)
    (habandoned : s.resolution = .abandoned) : keeper.store.Unanswered s.game := by
  obtain ⟨now, game, hgame, hplan⟩ := settles.due h
  obtain ⟨set, hnone⟩ := unanswered_of_abandoned hplan habandoned
  exact ⟨game, hgame, set, plan_game hplan ▸ hnone⟩

lemma Loaded.unanswered {state : GenesisState} (loaded : Loaded keeper.codec state keeper.store)
    (unanswered : keeper.store.Unanswered id) :
    (∃ game ∈ state.games, game.id = id ∧ game.revealDeadline ≠ none) ∧ ∀ r ∈ state.reveals, r.game ≠ id := by
  obtain ⟨game, hgame, set, hnone⟩ := unanswered
  obtain ⟨hmem, hid⟩ := loaded.game.mp hgame
  refine ⟨⟨game, hmem, hid, set⟩, ?_⟩
  rintro r hr rfl
  obtain ⟨reveals, hreveals, hperm⟩ := loaded.reveals
  obtain ⟨⟨⟨_, player⟩, reveal⟩, he, rfl, _⟩ := exists_loaded hreveals hr
  have hreveal := GameStore.mem_ofGame.mpr (SortedMap.get?_eq_some_iff.mpr (hperm.mem_iff.mpr he))
  rw [← GameStore.revealsOf, hnone] at hreveal
  cases hreveal

/-- Calls on a new keeper never lead to a settlement that finds no commits or no reveals at all. After an import none
is without commits, and the games without reveals are those imported with an open reveal window and no reveal, where
nobody has revealed since. -/
theorem no_ending_without_moves {keeper : Keeper κ} :
    (∀ {codec : κ} {authority : String} {config : GameConfig}, Keeper.new codec authority config = .ok keeper →
      ∀ (turns : List (Turn β)) (s : Settlement), (keeper.after turns).Settles s →
        s.resolution ≠ .abandoned ∧ s.resolution ≠ .empty) ∧
    ∀ {before : Keeper κ} {state : GenesisState}, before.initGenesis state = .ok keeper →
      ∀ (turns : List (Turn β)) (s : Settlement), (keeper.after turns).Settles s →
        s.resolution ≠ .empty ∧ (s.resolution = .abandoned →
          (∃ game ∈ state.games, game.id = s.game ∧ game.revealDeadline ≠ none) ∧
            (∀ r ∈ state.reveals, r.game ≠ s.game) ∧ s.game ∉ keeper.revealed turns) := by
  constructor
  · intro codec authority config created turns s settles
    have h := new_wellFormed created
    refine ⟨fun habandoned => ?_, settles.resolution_ne_empty (after_wellFormed h turns)⟩
    obtain ⟨⟨game, hgame, _⟩, _⟩ := unanswered_since h (settles.unanswered (after_wellFormed h turns) habandoned)
    rw [new_store created] at hgame
    cases hgame
  · intro before state imported turns s settles
    have h := initGenesis_wellFormed imported
    refine ⟨settles.resolution_ne_empty (after_wellFormed h turns), fun habandoned => ?_⟩
    obtain ⟨_, _, loaded⟩ := initGenesis_eq_ok imported
    obtain ⟨hstart, hsince⟩ := unanswered_since h (settles.unanswered (after_wellFormed h turns) habandoned)
    obtain ⟨hgame, hreveals⟩ := loaded.unanswered hstart
    exact ⟨hgame, hreveals, hsince⟩

end Keeper

namespace Sample

def silentState : GenesisState := { state with reveals := [] }

def silent : Keeper Bech32Codec := { loaded with store := { loaded.store with reveals := ∅ } }

lemma load_silentState : fresh.initGenesis silentState = .ok silent := by decide +kernel

def refunds : Settlement := ⟨0, .abandoned, [⟨⟨[1]⟩, ⟨5⟩⟩, ⟨⟨[2]⟩, ⟨5⟩⟩]⟩

def closed : Game := { waitingGame with revealDeadline := some waitingGame.commitDeadline }

def forfeit : Settlement := ⟨0, .forfeit ⟨[3]⟩, [⟨⟨[3]⟩, ⟨10⟩⟩]⟩

end Sample

theorem Keeper.no_ending_without_moves_silent :
    (∃ s, (Sample.fresh.after Sample.revealing).Settles s ∧ s.resolution ≠ .abandoned ∧ s.resolution ≠ .empty) ∧
    (Sample.silent.after (Sample.revealing.take 1)).Settles Sample.refunds ∧
      (∃ game ∈ Sample.silentState.games, game.id = 0 ∧ game.revealDeadline ≠ none) ∧
      0 ∉ Sample.silent.revealed (Sample.revealing.take 1) := by
  constructor
  · have due : Due Sample.closed.commitDeadline ((Sample.fresh.after Sample.revealing).store.without [])
        Sample.forfeit := ⟨Sample.closed, by decide +kernel, by decide +kernel⟩
    have settles := Settles.planned due
    exact ⟨Sample.forfeit, settles, no_ending_without_moves.1 Sample.new_fresh _ _ settles⟩
  · have due : Due .epoch ((Sample.silent.after (Sample.revealing.take 1)).store.without []) Sample.refunds :=
      ⟨⟨0, ⟨5⟩, .epoch, some .epoch⟩, by decide +kernel, by decide +kernel⟩
    have settles := Settles.planned due
    obtain ⟨_, habandoned⟩ := no_ending_without_moves.2 Sample.load_silentState _ _ settles
    obtain ⟨hgame, _, hsince⟩ := habandoned rfl
    exact ⟨settles, hgame, hsince⟩

end Roshambo
