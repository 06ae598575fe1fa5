import Roshambo.Genesis.Validation
import Roshambo.Proofs.Amount
import Roshambo.Proofs.Outcome
import Roshambo.Proofs.SortedMap

namespace Roshambo

variable {ρ δ ε : Type}

def CommitRecord.key (r : CommitRecord) : GameId × String := (r.game, r.player)

def RevealRecord.key (r : RevealRecord) : GameId × String := (r.game, r.player)

def gamesById (games : List Game) : SortedMap GameId Game := games.foldl (fun m g => m.insert g.id g) ∅

lemma gamesById_get? {games : List Game} (hd : (games.map (·.id)).Nodup) {id : GameId} {game : Game} :
    (gamesById games).get? id = some game ↔ game ∈ games ∧ game.id = id := by
  rw [gamesById, SortedMap.get?_foldl_insert hd ∅ id game]
  constructor
  · rintro (⟨g, hg, rfl, rfl⟩ | ⟨-, h⟩)
    · exact ⟨hg, rfl⟩
    · cases h
  · rintro ⟨hgame, rfl⟩
    exact Or.inl ⟨game, hgame, rfl, rfl⟩

lemma foldlM_collect_eq_ok_iff {σ : Type} {step : σ → ρ → Except ε σ} {key : ρ → δ} {P : ρ → Prop}
    {add : σ → ρ → σ} (has : σ → δ → Prop) (hadd : ∀ s r d, has (add s r) d ↔ d = key r ∨ has s d)
    (hstep : ∀ s r s', step s r = .ok s' ↔ P r ∧ ¬ has s (key r) ∧ s' = add s r) {records : List ρ} {s s' : σ} :
    records.foldlM step s = .ok s' ↔
      (∀ r ∈ records, P r) ∧ (records.map key).Nodup ∧ (∀ r ∈ records, ¬ has s (key r)) ∧
        s' = records.foldl add s := by
  induction records generalizing s with
  | nil =>
    have hnil : ([] : List ρ).foldlM step s = .ok s := rfl
    simp [hnil, eq_comm]
  | cons r rest ih =>
    rw [List.foldlM_cons, bind_eq_ok_iff]
    simp only [hstep, ih, List.forall_mem_cons, List.map_cons, List.nodup_cons, List.foldl_cons]
    constructor
    · rintro ⟨_, ⟨hr, hnew, rfl⟩, hrest, hnodup, hfresh, rfl⟩
      refine ⟨⟨hr, hrest⟩, ⟨?_, hnodup⟩, ⟨hnew, fun r' hr' => ?_⟩, rfl⟩
      · intro hm
        obtain ⟨r', hr', he⟩ := List.mem_map.mp hm
        exact hfresh r' hr' ((hadd s r _).mpr (Or.inl he))
      · exact fun hm => hfresh r' hr' ((hadd s r _).mpr (Or.inr hm))
    · rintro ⟨⟨hr, hrest⟩, ⟨hout, hnodup⟩, ⟨hnew, hfresh⟩, rfl⟩
      refine ⟨_, ⟨hr, hnew, rfl⟩, hrest, hnodup, fun r' hr' hm => ?_, rfl⟩
      rcases (hadd s r _).mp hm with he | hm
      · exact hout (he ▸ List.mem_map_of_mem hr')
      · exact hfresh r' hr' hm

namespace GenesisState

def commitCount (s : GenesisState) (id : GameId) : Nat := s.commits.countP fun c => c.game = id

structure Valid (s : GenesisState) : Prop where
  params : s.params.validate = .ok ()
  belowNext : ∀ g ∈ s.games, g.id < s.nextId
  feePositive : ∀ g ∈ s.games, 0 < g.entryFee.toNat
  prizeFits : ∀ g ∈ s.games, 2 * g.entryFee.toNat < UInt64.size
  gamesDistinct : (s.games.map (·.id)).Nodup
  commitOfGame : ∀ c ∈ s.commits, ∃ g ∈ s.games, g.id = c.game
  commitsDistinct : (s.commits.map CommitRecord.key).Nodup
  oneOrTwo : ∀ g ∈ s.games, s.commitCount g.id = 1 ∨ s.commitCount g.id = 2
  deadlineOfFull : ∀ g ∈ s.games, g.revealDeadline ≠ none → s.commitCount g.id = 2
  revealOfCommit : ∀ r ∈ s.reveals, r.key ∈ s.commits.map CommitRecord.key
  revealsDistinct : (s.reveals.map RevealRecord.key).Nodup
  deadlineOfReveal : ∀ r ∈ s.reveals, ∃ g ∈ s.games, g.id = r.game ∧ g.revealDeadline ≠ none

lemma checkGame_eq_ok_iff {nextId : GameId} {seen seen' : SortedMap GameId Game} {game : Game} :
    checkGame nextId seen game = .ok seen' ↔
      (game.id < nextId ∧ 0 < game.entryFee.toNat ∧ 2 * game.entryFee.toNat < UInt64.size) ∧
        ¬ (∃ g, seen.get? game.id = some g) ∧ seen' = seen.insert game.id game := by
  have hprize : ¬ game.prize?.isNone ↔ 2 * game.entryFee.toNat < UInt64.size := by
    rw [Option.isNone_iff_eq_none, Game.prize?, Amount.times?_eq_none_iff, Nat.not_le, Nat.mul_comm]
    rfl
  have hseen : ¬ seen.contains game.id ↔ ¬ ∃ g, seen.get? game.id = some g := by
    rw [SortedMap.contains, Option.isSome_iff_exists]
  simp only [checkGame, throw_bind, guard_eq_ok_iff, Amount.pos_iff, UInt64.not_le, hprize, hseen]
  constructor
  · rintro ⟨hid, hfee, hfits, hnew, h⟩
    exact ⟨⟨hid, hfee, hfits⟩, hnew, (Except.ok.inj h).symm⟩
  · rintro ⟨⟨hid, hfee, hfits⟩, hnew, rfl⟩
    exact ⟨hid, hfee, hfits, hnew, rfl⟩

lemma checkCommit_eq_ok_iff {games : SortedMap GameId Game} {seen seen' : List (GameId × String)}
    {c : CommitRecord} :
    checkCommit games seen c = .ok seen' ↔
      (∃ game, games.get? c.game = some game) ∧ c.key ∉ seen ∧ seen' = c.key :: seen := by
  have hgame : ¬ ¬ games.contains c.game ↔ ∃ game, games.get? c.game = some game := by
    rw [not_not, SortedMap.contains, Option.isSome_iff_exists]
  simp only [checkCommit, throw_bind, guard_eq_ok_iff, hgame]
  constructor
  · rintro ⟨hknown, hnew, h⟩
    exact ⟨hknown, hnew, (Except.ok.inj h).symm⟩
  · rintro ⟨hknown, hnew, rfl⟩
    exact ⟨hknown, hnew, rfl⟩

lemma checkReveal_eq_ok_iff {games : SortedMap GameId Game} {commits seen seen' : List (GameId × String)}
    {r : RevealRecord} :
    checkReveal games commits seen r = .ok seen' ↔
      (r.key ∈ commits ∧ ∃ game, games.get? r.game = some game ∧ game.revealDeadline ≠ none) ∧
        r.key ∉ seen ∧ seen' = r.key :: seen := by
  have hgame : ¬ ¬ (games.get? r.game).any (·.revealDeadline.isSome) ↔
      ∃ game, games.get? r.game = some game ∧ game.revealDeadline ≠ none := by
    rw [not_not, Option.any_eq_true]
    simp only [Option.isSome_iff_ne_none]
  simp only [checkReveal, throw_bind, guard_eq_ok_iff, hgame, not_not]
  constructor
  · rintro ⟨hcommit, hnew, hdeadline, h⟩
    exact ⟨⟨hcommit, hdeadline⟩, hnew, (Except.ok.inj h).symm⟩
  · rintro ⟨⟨hcommit, hdeadline⟩, hnew, rfl⟩
    exact ⟨hcommit, hnew, hdeadline, rfl⟩

lemma checkCount_eq_ok_iff {commits : List (GameId × String)} {game : Game} :
    checkCount commits game = .ok () ↔
      (commits.countP (fun c => c.1 = game.id) = 1 ∨ commits.countP (fun c => c.1 = game.id) = 2) ∧
        (game.revealDeadline ≠ none → commits.countP (fun c => c.1 = game.id) = 2) := by
  rw [List.countP_eq_length_filter]
  simp only [checkCount, throw_bind, guard_eq_ok_iff, maxPlayers, Option.isSome_iff_ne_none]
  generalize (commits.filter fun c => c.1 = game.id).length = n
  have hok : (if game.revealDeadline ≠ none ∧ n ≠ 2 then throw (.earlyRevealDeadline game.id) else pure () :
      Except GenesisFault Unit) = .ok () ↔ (game.revealDeadline ≠ none → n = 2) := by
    by_cases hd : game.revealDeadline = none <;> by_cases hn : n = 2 <;> simp [hd, hn] <;> rfl
  rw [hok]
  refine and_congr_left fun _ => ?_
  omega

lemma checkGames_eq_ok_iff {nextId : GameId} {records : List Game} {games : SortedMap GameId Game} :
    records.foldlM (checkGame nextId) ∅ = .ok games ↔
      (∀ g ∈ records, g.id < nextId ∧ 0 < g.entryFee.toNat ∧ 2 * g.entryFee.toNat < UInt64.size) ∧
        (records.map (·.id)).Nodup ∧ games = gamesById records := by
  have hadd : ∀ (m : SortedMap GameId Game) (g : Game) (id : GameId),
      (∃ g', (m.insert g.id g).get? id = some g') ↔ id = g.id ∨ ∃ g', m.get? id = some g' := by
    intro m g id
    rw [SortedMap.get?_insert]
    by_cases h : id = g.id <;> simp [h]
  refine (foldlM_collect_eq_ok_iff (fun m id => ∃ g, m.get? id = some g) hadd
    fun _ _ _ => checkGame_eq_ok_iff).trans ?_
  simp [gamesById]

lemma checkCommits_eq_ok_iff {games : SortedMap GameId Game} {records : List CommitRecord}
    {seen : List (GameId × String)} :
    records.foldlM (checkCommit games) [] = .ok seen ↔
      (∀ c ∈ records, ∃ game, games.get? c.game = some game) ∧ (records.map CommitRecord.key).Nodup ∧
        seen = (records.map CommitRecord.key).reverse := by
  have hadd : ∀ (seen : List (GameId × String)) (c : CommitRecord) (key : GameId × String),
      key ∈ c.key :: seen ↔ key = c.key ∨ key ∈ seen := fun _ _ _ => List.mem_cons
  refine (foldlM_collect_eq_ok_iff (fun seen key => key ∈ seen) hadd fun _ _ _ => checkCommit_eq_ok_iff).trans ?_
  simp

lemma checkReveals_eq_ok_iff {games : SortedMap GameId Game} {commits seen : List (GameId × String)}
    {records : List RevealRecord} :
    records.foldlM (checkReveal games commits) [] = .ok seen ↔
      (∀ r ∈ records, r.key ∈ commits ∧ ∃ game, games.get? r.game = some game ∧ game.revealDeadline ≠ none) ∧
        (records.map RevealRecord.key).Nodup ∧ seen = (records.map RevealRecord.key).reverse := by
  have hadd : ∀ (seen : List (GameId × String)) (r : RevealRecord) (key : GameId × String),
      key ∈ r.key :: seen ↔ key = r.key ∨ key ∈ seen := fun _ _ _ => List.mem_cons
  refine (foldlM_collect_eq_ok_iff (fun seen key => key ∈ seen) hadd fun _ _ _ => checkReveal_eq_ok_iff).trans ?_
  simp

lemma countP_keys (s : GenesisState) (id : GameId) :
    (s.commits.map CommitRecord.key).reverse.countP (fun c => c.1 = id) = s.commitCount id := by
  rw [List.countP_reverse, List.countP_map]
  rfl

theorem check_eq_ok_iff {s : GenesisState} {u : Unit} : s.check = .ok u ↔ s.Valid := by
  simp only [check, bind_eq_ok_iff, mapError_eq_ok_iff, checkGames_eq_ok_iff, checkCommits_eq_ok_iff,
    checkReveals_eq_ok_iff, forM_eq_ok_iff, checkCount_eq_ok_iff]
  constructor
  · rintro ⟨_, hparams, _, ⟨hgames, hids, rfl⟩, _, ⟨hknown, hseats, rfl⟩, _, hcounts, _, ⟨hreveals, hopened, _⟩, _⟩
    have hcount : ∀ g ∈ s.games, (s.commitCount g.id = 1 ∨ s.commitCount g.id = 2) ∧
        (g.revealDeadline ≠ none → s.commitCount g.id = 2) := by
      intro g hg
      have hvalue := SortedMap.mem_values.mpr ⟨g.id, (gamesById_get? hids).mpr ⟨hg, rfl⟩⟩
      simpa only [countP_keys] using hcounts g hvalue
    exact
      { params := hparams, belowNext := fun g hg => (hgames g hg).1, feePositive := fun g hg => (hgames g hg).2.1,
        prizeFits := fun g hg => (hgames g hg).2.2, gamesDistinct := hids, commitsDistinct := hseats,
        revealsDistinct := hopened, oneOrTwo := fun g hg => (hcount g hg).1,
        deadlineOfFull := fun g hg => (hcount g hg).2,
        commitOfGame := fun c hc => (hknown c hc).imp fun _ hg => (gamesById_get? hids).mp hg,
        revealOfCommit := fun r hr => List.mem_reverse.mp (hreveals r hr).1,
        deadlineOfReveal := fun r hr => by
          obtain ⟨g, hg, hdeadline⟩ := (hreveals r hr).2
          obtain ⟨hmem, hid⟩ := (gamesById_get? hids).mp hg
          exact ⟨g, hmem, hid, hdeadline⟩ }
  · intro h
    refine ⟨(), h.params, _, ⟨?games, h.gamesDistinct, rfl⟩, _, ⟨?commits, h.commitsDistinct, rfl⟩, (), ?counts, _,
      ⟨?reveals, h.revealsDistinct, rfl⟩, rfl⟩
    case games => exact fun g hg => ⟨h.belowNext g hg, h.feePositive g hg, h.prizeFits g hg⟩
    case commits =>
      intro c hc
      obtain ⟨g, hg, hid⟩ := h.commitOfGame c hc
      exact ⟨g, (gamesById_get? h.gamesDistinct).mpr ⟨hg, hid⟩⟩
    case counts =>
      intro g hvalue
      obtain ⟨id, hid⟩ := SortedMap.mem_values.mp hvalue
      obtain ⟨hg, _⟩ := (gamesById_get? h.gamesDistinct).mp hid
      rw [countP_keys]
      exact ⟨h.oneOrTwo g hg, h.deadlineOfFull g hg⟩
    case reveals =>
      intro r hr
      obtain ⟨g, hg, hid, hdeadline⟩ := h.deadlineOfReveal r hr
      exact ⟨List.mem_reverse.mpr (h.revealOfCommit r hr), g, (gamesById_get? h.gamesDistinct).mpr ⟨hg, hid⟩, hdeadline⟩

lemma validate_eq_ok_iff {s : GenesisState} {u : Unit} : s.validate = .ok u ↔ s.Valid := by
  rw [validate, mapError_eq_ok_iff, check_eq_ok_iff]

end GenesisState

end Roshambo
