import Roshambo.Proofs.Amount
import Roshambo.Proofs.Steps

namespace Roshambo

variable {κ β : Type} [AddressCodec κ]

namespace GameStore

structure WellFormed (codec : κ) (store : GameStore) : Prop where
  ownId : ∀ {id game}, store.game? id = some game → game.id = id
  belowNext : ∀ {id game}, store.game? id = some game → id < store.nextId
  feePositive : ∀ {id game}, store.game? id = some game → 0 < game.entryFee.toNat
  prizeFits : ∀ {id game}, store.game? id = some game → 2 * game.entryFee.toNat < UInt64.size
  commitOfGame : ∀ {seat commit}, store.commits.get? seat = some commit → ∃ game, store.game? seat.game = some game
  oneOrTwo : ∀ {id game}, store.game? id = some game → store.commitCount id = 1 ∨ store.commitCount id = 2
  revealOfCommit : ∀ {seat reveal}, store.reveals.get? seat = some reveal →
    ∃ commit, store.commits.get? seat = some commit
  deadlineOfFull : ∀ {id game}, store.game? id = some game → game.revealDeadline ≠ none → store.commitCount id = 2
  deadlineOfReveal : ∀ {seat reveal game}, store.reveals.get? seat = some reveal →
    store.game? seat.game = some game → game.revealDeadline ≠ none
  decoded : ∀ {seat commit}, store.commits.get? seat = some commit →
    ∃ text, AddressCodec.decode codec text = .ok seat.player
  revealOfGame : ∀ {seat reveal}, store.reveals.get? seat = some reveal → ∃ game, store.game? seat.game = some game :=
    fun h => (revealOfCommit h).elim fun _ => commitOfGame
  revealDecoded : ∀ {seat reveal}, store.reveals.get? seat = some reveal →
    ∃ text, AddressCodec.decode codec text = .ok seat.player :=
    fun h => (revealOfCommit h).elim fun _ => decoded

variable {codec : κ} {store : GameStore}

lemma wellFormed_empty : empty.WellFormed codec where
  ownId h := by cases h
  belowNext h := by cases h
  feePositive h := by cases h
  prizeFits h := by cases h
  commitOfGame h := by cases h
  oneOrTwo h := by cases h
  revealOfCommit h := by cases h
  deadlineOfFull h := by cases h
  deadlineOfReveal h := by cases h
  decoded h := by cases h

namespace WellFormed

lemma no_commit_at_next (h : store.WellFormed codec) (player : Address) :
    store.commits.get? ⟨store.nextId, player⟩ = none := by
  cases hc : store.commits.get? ⟨store.nextId, player⟩ with
  | none => rfl
  | some commit =>
    obtain ⟨game, hgame⟩ := h.commitOfGame hc
    exact (UInt64.lt_irrefl _ (h.belowNext hgame)).elim

lemma game?_next (h : store.WellFormed codec) : store.game? store.nextId = none := by
  cases hgame : store.game? store.nextId with
  | none => rfl
  | some game => exact (UInt64.lt_irrefl _ (h.belowNext hgame)).elim

lemma ne_next (h : store.WellFormed codec) {id : GameId} {game : Game} (hgame : store.game? id = some game) :
    id ≠ store.nextId := by
  rintro rfl
  exact UInt64.lt_irrefl _ (h.belowNext hgame)

lemma start (h : store.WellFormed codec) {creator : Address} {fee : Amount} {closing : Instant}
    {commit : MoveCommit} (hfee : 0 < fee.toNat) (hprize : 2 * fee.toNat < UInt64.size)
    (hid : store.nextId.toNat + 1 < UInt64.size)
    (hcreator : ∃ text, AddressCodec.decode codec text = .ok creator) :
    (store.start creator fee closing commit).WellFormed codec := by
  -- A stored game is the new one or an old one, and the two never share an id.
  have hgame : ∀ {id game}, (store.start creator fee closing commit).game? id = some game →
      (id = store.nextId ∧ game = ⟨store.nextId, fee, closing, none⟩) ∨
        (store.nextId ≠ id ∧ store.game? id = some game) := by
    intro id game hg
    rw [game?_start] at hg
    split at hg
    · rename_i hid
      exact Or.inl ⟨hid, (Option.some.inj hg).symm⟩
    · exact Or.inr ⟨(h.ne_next hg).symm, hg⟩
  have hcount := store.commitCount_start creator fee closing commit (h.no_commit_at_next creator)
  refine
    { ownId := ?ownId, belowNext := ?belowNext, feePositive := ?feePositive, prizeFits := ?prizeFits,
      commitOfGame := ?commitOfGame, oneOrTwo := ?oneOrTwo, revealOfCommit := ?revealOfCommit,
      deadlineOfFull := ?deadlineOfFull, deadlineOfReveal := ?deadlineOfReveal, decoded := ?decoded }
  case ownId =>
    intro id game hg
    rcases hgame hg with ⟨rfl, rfl⟩ | ⟨_, hg⟩
    · rfl
    · exact h.ownId hg
  case belowNext =>
    intro id game hg
    rcases hgame hg with ⟨rfl, _⟩ | ⟨_, hg⟩
    · exact lt_next hid
    · exact UInt64.lt_trans (h.belowNext hg) (lt_next hid)
  case feePositive =>
    intro id game hg
    rcases hgame hg with ⟨_, rfl⟩ | ⟨_, hg⟩
    · exact hfee
    · exact h.feePositive hg
  case prizeFits =>
    intro id game hg
    rcases hgame hg with ⟨_, rfl⟩ | ⟨_, hg⟩
    · exact hprize
    · exact h.prizeFits hg
  case commitOfGame =>
    intro seat c hc
    rw [commits_start, SortedMap.get?_insert] at hc
    rw [game?_start]
    split
    · exact ⟨_, rfl⟩
    · rename_i hne
      rw [if_neg (fun he => hne (congrArg Seat.game he))] at hc
      exact h.commitOfGame hc
  case oneOrTwo =>
    intro id game hg
    rw [hcount]
    rcases hgame hg with ⟨rfl, _⟩ | ⟨hne, hg⟩
    · rw [commitCount_eq_zero h.no_commit_at_next, if_pos rfl]
      exact Or.inl rfl
    · rw [if_neg hne]
      exact h.oneOrTwo hg
  case revealOfCommit =>
    intro seat reveal hr
    rw [commits_start, SortedMap.get?_insert]
    split
    · exact ⟨commit, rfl⟩
    · exact h.revealOfCommit hr
  case deadlineOfFull =>
    intro id game hg hd
    rw [hcount]
    rcases hgame hg with ⟨_, rfl⟩ | ⟨hne, hg⟩
    · exact (hd rfl).elim
    · rw [if_neg hne]
      exact h.deadlineOfFull hg hd
  case deadlineOfReveal =>
    intro seat reveal game hr hg
    rcases hgame hg with ⟨hseat, _⟩ | ⟨_, hg⟩
    · obtain ⟨old, hold⟩ := h.revealOfGame hr
      exact (h.ne_next hold hseat).elim
    · exact h.deadlineOfReveal hr hg
  case decoded =>
    intro seat c hc
    rw [commits_start, SortedMap.get?_insert] at hc
    split at hc
    · rename_i hseat
      rw [hseat]
      exact hcreator
    · exact h.decoded hc

lemma join (h : store.WellFormed codec) {id : GameId} {game : Game} {joiner : Address} {commit : MoveCommit}
    (hgame : store.game? id = some game) (hcount : store.commitCount id < 2)
    (hfresh : store.commits.get? ⟨id, joiner⟩ = none)
    (hjoiner : ∃ text, AddressCodec.decode codec text = .ok joiner) :
    (store.setCommit id joiner commit).WellFormed codec := by
  have hone : store.commitCount id = 1 := by
    have hc := h.oneOrTwo hgame
    omega
  refine
    { ownId := h.ownId, belowNext := h.belowNext, feePositive := h.feePositive, prizeFits := h.prizeFits,
      deadlineOfReveal := h.deadlineOfReveal, commitOfGame := ?commitOfGame, oneOrTwo := ?oneOrTwo,
      revealOfCommit := ?revealOfCommit, deadlineOfFull := ?deadlineOfFull, decoded := ?decoded }
  case commitOfGame =>
    intro seat c hc
    rw [commits_setCommit, SortedMap.get?_insert] at hc
    split at hc
    · rename_i hseat
      exact ⟨game, hseat ▸ hgame⟩
    · exact h.commitOfGame hc
  case oneOrTwo =>
    intro other game' hgame'
    have hc := h.oneOrTwo hgame'
    rw [commitCount_setCommit hfresh]
    split
    · rename_i he
      rw [← he, hone]
      exact Or.inr rfl
    · exact hc
  case revealOfCommit =>
    intro seat reveal hr
    rw [commits_setCommit, SortedMap.get?_insert]
    split
    · exact ⟨commit, rfl⟩
    · exact h.revealOfCommit hr
  case deadlineOfFull =>
    intro other game' hgame' hd
    have hc := h.deadlineOfFull hgame' hd
    rw [commitCount_setCommit hfresh]
    split
    · rename_i he
      rw [← he] at hc
      omega
    · exact hc
  case decoded =>
    intro seat c hc
    rw [commits_setCommit, SortedMap.get?_insert] at hc
    split at hc
    · rename_i hseat
      rw [hseat]
      exact hjoiner
    · exact h.decoded hc

lemma game?_setDeadline (h : store.WellFormed codec) {id : GameId} {game : Game} (closing : Instant)
    (hgame : store.game? id = some game) :
    (store.setGame { game with revealDeadline := some closing }).game? id =
      some { game with revealDeadline := some closing } := by
  rw [game?_setGame, if_pos (h.ownId hgame).symm]

lemma setDeadline (h : store.WellFormed codec) {id : GameId} {game : Game} (closing : Instant)
    (hgame : store.game? id = some game) (hfull : store.commitCount id = 2) :
    (store.setGame { game with revealDeadline := some closing }).WellFormed codec := by
  have hown := h.ownId hgame
  have hgame' : ∀ {other game'}, (store.setGame { game with revealDeadline := some closing }).game? other = some game' →
      (other = id ∧ game' = { game with revealDeadline := some closing }) ∨ store.game? other = some game' := by
    intro other game' hg
    rw [game?_setGame] at hg
    split at hg
    · rename_i he
      exact Or.inl ⟨he.trans hown, (Option.some.inj hg).symm⟩
    · exact Or.inr hg
  refine
    { ownId := ?ownId, belowNext := ?belowNext, feePositive := ?feePositive, prizeFits := ?prizeFits,
      commitOfGame := ?commitOfGame, oneOrTwo := ?oneOrTwo, revealOfCommit := h.revealOfCommit,
      deadlineOfFull := ?deadlineOfFull, deadlineOfReveal := ?deadlineOfReveal, decoded := h.decoded }
  case ownId =>
    intro other game' hg
    rcases hgame' hg with ⟨rfl, rfl⟩ | hg
    · exact hown
    · exact h.ownId hg
  case belowNext =>
    intro other game' hg
    rcases hgame' hg with ⟨rfl, _⟩ | hg
    · exact h.belowNext hgame
    · exact h.belowNext hg
  case feePositive =>
    intro other game' hg
    rcases hgame' hg with ⟨_, rfl⟩ | hg
    · exact (h.feePositive hgame : 0 < game.entryFee.toNat)
    · exact h.feePositive hg
  case prizeFits =>
    intro other game' hg
    rcases hgame' hg with ⟨_, rfl⟩ | hg
    · exact (h.prizeFits hgame : 2 * game.entryFee.toNat < UInt64.size)
    · exact h.prizeFits hg
  case commitOfGame =>
    intro seat c hc
    rw [game?_setGame]
    split
    · exact ⟨_, rfl⟩
    · exact h.commitOfGame hc
  case oneOrTwo =>
    intro other game' hg
    rcases hgame' hg with ⟨rfl, _⟩ | hg
    · exact h.oneOrTwo hgame
    · exact h.oneOrTwo hg
  case deadlineOfFull =>
    intro other game' hg hd
    rcases hgame' hg with ⟨rfl, _⟩ | hg
    · exact hfull
    · exact h.deadlineOfFull hg hd
  case deadlineOfReveal =>
    intro seat reveal game' hr hg
    rcases hgame' hg with ⟨_, rfl⟩ | hg
    · exact Option.some_ne_none closing
    · exact h.deadlineOfReveal hr hg

lemma reveal (h : store.WellFormed codec) {id : GameId} {game : Game} {player : Address} {commit : MoveCommit}
    {reveal : MoveReveal} (hgame : store.game? id = some game) (hdeadline : game.revealDeadline ≠ none)
    (hcommit : store.commits.get? ⟨id, player⟩ = some commit) :
    (store.setReveal id player reveal).WellFormed codec := by
  refine
    { ownId := h.ownId, belowNext := h.belowNext, feePositive := h.feePositive, prizeFits := h.prizeFits,
      commitOfGame := h.commitOfGame, oneOrTwo := h.oneOrTwo, revealOfCommit := ?revealOfCommit,
      deadlineOfFull := h.deadlineOfFull, deadlineOfReveal := ?deadlineOfReveal, decoded := h.decoded }
  case revealOfCommit =>
    intro seat r hr
    rw [reveals_setReveal, SortedMap.get?_insert] at hr
    split at hr
    · rename_i hseat
      exact ⟨commit, hseat ▸ hcommit⟩
    · exact h.revealOfCommit hr
  case deadlineOfReveal =>
    intro seat r game' hr hg
    rw [reveals_setReveal, SortedMap.get?_insert] at hr
    split at hr
    · rename_i hseat
      rw [hseat, game?_setReveal, hgame] at hg
      obtain rfl := Option.some.inj hg
      exact hdeadline
    · exact h.deadlineOfReveal hr hg

lemma without (h : store.WellFormed codec) (ids : List GameId) : (store.without ids).WellFormed codec := by
  have hgame : ∀ {id game}, (store.without ids).game? id = some game → id ∉ ids ∧ store.game? id = some game := by
    intro id game hg
    rw [game?_without] at hg
    split at hg
    · cases hg
    · exact ⟨‹_›, hg⟩
  have hcommit : ∀ {seat c}, (store.without ids).commits.get? seat = some c →
      seat.game ∉ ids ∧ store.commits.get? seat = some c := by
    intro seat c hc
    simpa [GameStore.without, SortedMap.get?_filter] using hc
  have hreveal : ∀ {seat r}, (store.without ids).reveals.get? seat = some r →
      seat.game ∉ ids ∧ store.reveals.get? seat = some r := by
    intro seat r hr
    simpa [GameStore.without, SortedMap.get?_filter] using hr
  refine
    { ownId := fun hg => h.ownId (hgame hg).2, belowNext := fun hg => h.belowNext (hgame hg).2,
      feePositive := fun hg => h.feePositive (hgame hg).2, prizeFits := fun hg => h.prizeFits (hgame hg).2,
      decoded := fun hc => h.decoded (hcommit hc).2, commitOfGame := ?commitOfGame, oneOrTwo := ?oneOrTwo,
      revealOfCommit := ?revealOfCommit, deadlineOfFull := ?deadlineOfFull,
      deadlineOfReveal := fun hr hg => h.deadlineOfReveal (hreveal hr).2 (hgame hg).2 }
  case commitOfGame =>
    intro seat c hc
    obtain ⟨hkept, hc⟩ := hcommit hc
    rw [game?_without, if_neg hkept]
    exact h.commitOfGame hc
  case oneOrTwo =>
    intro id game hg
    obtain ⟨hkept, hg⟩ := hgame hg
    rw [commitCount_without, if_neg hkept]
    exact h.oneOrTwo hg
  case revealOfCommit =>
    intro seat r hr
    obtain ⟨hkept, hr⟩ := hreveal hr
    simpa [GameStore.without, SortedMap.get?_filter, hkept] using h.revealOfCommit hr
  case deadlineOfFull =>
    intro id game hg hd
    obtain ⟨hkept, hg⟩ := hgame hg
    rw [commitCount_without, if_neg hkept]
    exact h.deadlineOfFull hg hd

end WellFormed

lemma get?_eq_none_of_not_hasCommit {id : GameId} {player : Address} (h : ¬ store.hasCommit id player) :
    store.commits.get? ⟨id, player⟩ = none := by
  simpa [hasCommit, SortedMap.contains] using h

lemma get?_eq_none_of_not_hasReveal {id : GameId} {player : Address} (h : ¬ store.hasReveal id player) :
    store.reveals.get? ⟨id, player⟩ = none := by
  simpa [hasReveal, SortedMap.contains] using h

end GameStore

open GameStore

variable [Bank β]

lemma Step.wellFormed {ledger next : Ledger κ β} (step : Step ledger next)
    (h : ledger.keeper.store.WellFormed ledger.keeper.codec) :
    next.keeper.store.WellFormed next.keeper.codec := by
  cases step with
  | start admitted _ =>
    obtain ⟨hfee, hcreator, _, hprize, hid⟩ := Keeper.admitStart_eq_ok_iff.mp admitted
    rw [Ne, Amount.times?_eq_none_iff, Nat.not_le, maxPlayers, Nat.mul_comm] at hprize
    exact h.start (Amount.pos_iff.mpr hfee) hprize hid ⟨_, Keeper.resolve_eq_ok_iff.mp hcreator⟩
  | join admitted _ =>
    obtain ⟨hjoiner, game, hgame, hcount, _, hfresh, _⟩ := Keeper.admitCommit_eq_ok_iff.mp admitted
    exact h.join hgame hcount (get?_eq_none_of_not_hasCommit hfresh) ⟨_, Keeper.resolve_eq_ok_iff.mp hjoiner⟩
  | firstReveal admitted unset closes =>
    rename_i game closing
    obtain ⟨_, _, hgame, _, commit, hcommit, hfull, _⟩ := Keeper.admitReveal_eq_ok_iff.mp admitted
    exact (h.setDeadline closing hgame hfull).reveal (h.game?_setDeadline closing hgame)
      (Option.some_ne_none closing) hcommit
  | reveal admitted closes =>
    obtain ⟨_, _, hgame, _, commit, hcommit, _⟩ := Keeper.admitReveal_eq_ok_iff.mp admitted
    exact h.reveal hgame (closes ▸ Option.some_ne_none _) hcommit
  | setParams accepted =>
    obtain ⟨_, _, _, rfl⟩ := Keeper.updateParams_eq_ok_iff.mp accepted
    exact h
  | settle settled =>
    obtain ⟨game, bank, _, _, _, rfl⟩ := Transaction.settleGame_eq_some settled
    simp only [Ledger.withStore, removeGame_eq_without]
    exact h.without _

lemma Steps.wellFormed {ledger next : Ledger κ β} (steps : Steps ledger next)
    (h : ledger.keeper.store.WellFormed ledger.keeper.codec) :
    next.keeper.store.WellFormed next.keeper.codec := by
  induction steps with
  | refl => exact h
  | tail _ step ih => exact step.wellFormed ih

end Roshambo
