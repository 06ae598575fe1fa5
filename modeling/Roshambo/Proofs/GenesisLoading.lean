import Mathlib.Data.List.Forall2
import Roshambo.Genesis.Import
import Roshambo.Proofs.GenesisValidity
import Roshambo.Proofs.WellFormed

namespace Roshambo

variable {κ ρ ν ε σ : Type}

lemma foldlM_load {step : σ → ρ → Except ε σ} (R : ρ → Seat × ν → Prop) (view : σ → SortedMap Seat ν)
    (frame : σ → σ → Prop) (hrefl : ∀ s, frame s s) (htrans : ∀ {a b c}, frame a b → frame b c → frame a c)
    (hstep : ∀ {s r s'}, step s r = .ok s' →
      ∃ e, R r e ∧ (view s').entries.Perm (e :: (view s).entries) ∧ frame s s')
    {records : List ρ} {s s' : σ} (h : records.foldlM step s = .ok s') :
    ∃ loaded, List.Forall₂ R records loaded ∧ (view s').entries.Perm (loaded ++ (view s).entries) ∧ frame s s' := by
  induction records generalizing s with
  | nil =>
    obtain rfl := Except.ok.inj h
    exact ⟨[], .nil, .refl _, hrefl s⟩
  | cons r rest ih =>
    rw [List.foldlM_cons, bind_eq_ok_iff] at h
    obtain ⟨middle, hmiddle, h⟩ := h
    obtain ⟨e, he, hperm, hframe⟩ := hstep hmiddle
    obtain ⟨loaded, hloaded, hperms, hframes⟩ := ih h
    refine ⟨e :: loaded, .cons he hloaded, ?_, htrans hframe hframes⟩
    exact hperms.trans ((hperm.append_left loaded).trans List.perm_middle)

lemma countP_of_forall₂ {R : ρ → ν → Prop} {p : ρ → Bool} {q : ν → Bool} {records : List ρ} {loaded : List ν}
    (hpq : ∀ {r e}, R r e → p r = q e) (h : List.Forall₂ R records loaded) : records.countP p = loaded.countP q := by
  induction h with
  | nil => rfl
  | cons hre _ ih => rw [List.countP_cons, List.countP_cons, ih, hpq hre]

lemma map_eq_of_forall₂ {α : Type} {R : ρ → ν → Prop} {f : ρ → α} {g : ν → α} {records : List ρ} {loaded : List ν}
    (hfg : ∀ {r e}, R r e → f r = g e) (h : List.Forall₂ R records loaded) : records.map f = loaded.map g := by
  induction h with
  | nil => rfl
  | cons hre _ ih => rw [List.map_cons, List.map_cons, hfg hre, ih]

lemma exists_record {R : ρ → ν → Prop} {records : List ρ} {loaded : List ν} (h : List.Forall₂ R records loaded)
    {e : ν} (he : e ∈ loaded) : ∃ r ∈ records, R r e := by
  induction h with
  | nil => cases he
  | cons hre _ ih =>
    rcases List.mem_cons.mp he with rfl | he
    · exact ⟨_, List.mem_cons_self, hre⟩
    · obtain ⟨r, hr, hre⟩ := ih he
      exact ⟨r, List.mem_cons_of_mem _ hr, hre⟩

lemma exists_loaded {R : ρ → ν → Prop} {records : List ρ} {loaded : List ν} (h : List.Forall₂ R records loaded)
    {r : ρ} (hr : r ∈ records) : ∃ e ∈ loaded, R r e :=
  exists_record h.flip hr

namespace Keeper

variable [AddressCodec κ] {codec : κ} {store store' : GameStore}

def LoadsAs (codec : κ) (id : GameId) (player : String) (value : ν) (e : Seat × ν) : Prop :=
  e.1.game = id ∧ AddressCodec.decode codec player = .ok e.1.player ∧ e.2 = value

def LoadsCommit (codec : κ) (c : CommitRecord) : Seat × MoveCommit → Prop := LoadsAs codec c.game c.player c.commit

def LoadsReveal (codec : κ) (r : RevealRecord) : Seat × MoveReveal → Prop := LoadsAs codec r.game r.player r.reveal

lemma loadCommit_eq_ok {c : CommitRecord} (h : loadCommit codec store c = .ok store') :
    ∃ e, LoadsCommit codec c e ∧ store'.commits.entries.Perm (e :: store.commits.entries) ∧
      store' = { store with commits := store'.commits } := by
  simp only [loadCommit, decodePlayer, throw_bind, bind_eq_ok_iff, mapError_eq_ok_iff, guard_eq_ok_iff] at h
  obtain ⟨player, hplayer, hfresh, h⟩ := h
  obtain rfl := Except.ok.inj h
  have hnone := GameStore.get?_eq_none_of_not_hasCommit hfresh
  exact ⟨(⟨c.game, player⟩, c.commit), ⟨rfl, hplayer, rfl⟩, SortedMap.perm_insert_new _ hnone, rfl⟩

lemma loadReveal_eq_ok {r : RevealRecord} (h : loadReveal codec store r = .ok store') :
    ∃ e, LoadsReveal codec r e ∧ store'.reveals.entries.Perm (e :: store.reveals.entries) ∧
      store' = { store with reveals := store'.reveals } := by
  simp only [loadReveal, decodePlayer, throw_bind, bind_eq_ok_iff, mapError_eq_ok_iff, guard_eq_ok_iff] at h
  obtain ⟨player, hplayer, hfresh, h⟩ := h
  obtain rfl := Except.ok.inj h
  have hnone := GameStore.get?_eq_none_of_not_hasReveal hfresh
  exact ⟨(⟨r.game, player⟩, r.reveal), ⟨rfl, hplayer, rfl⟩, SortedMap.perm_insert_new _ hnone, rfl⟩

lemma loadCommits_eq_ok {records : List CommitRecord} (h : records.foldlM (loadCommit codec) store = .ok store') :
    ∃ loaded, List.Forall₂ (LoadsCommit codec) records loaded ∧
      store'.commits.entries.Perm (loaded ++ store.commits.entries) ∧
      store' = { store with commits := store'.commits } :=
  foldlM_load (LoadsCommit codec) GameStore.commits (fun a b => b = { a with commits := b.commits })
    (fun _ => rfl) (fun hab hbc => hbc.trans (by rw [hab])) loadCommit_eq_ok h

lemma loadReveals_eq_ok {records : List RevealRecord} (h : records.foldlM (loadReveal codec) store = .ok store') :
    ∃ loaded, List.Forall₂ (LoadsReveal codec) records loaded ∧
      store'.reveals.entries.Perm (loaded ++ store.reveals.entries) ∧
      store' = { store with reveals := store'.reveals } :=
  foldlM_load (LoadsReveal codec) GameStore.reveals (fun a b => b = { a with reveals := b.reveals })
    (fun _ => rfl) (fun hab hbc => hbc.trans (by rw [hab])) loadReveal_eq_ok h

lemma foldl_setGame (games : List Game) (store : GameStore) :
    games.foldl GameStore.setGame store =
      { store with games := games.foldl (fun m g => m.insert g.id g) store.games } := by
  induction games generalizing store with
  | nil => rfl
  | cons g rest ih => exact ih (store.setGame g)

structure Loaded (codec : κ) (state : GenesisState) (store : GameStore) : Prop where
  nextId : store.nextId = state.nextId
  game : ∀ {id game}, store.game? id = some game ↔ game ∈ state.games ∧ game.id = id
  commits : ∃ loaded, List.Forall₂ (LoadsCommit codec) state.commits loaded ∧ store.commits.entries.Perm loaded
  reveals : ∃ loaded, List.Forall₂ (LoadsReveal codec) state.reveals loaded ∧ store.reveals.entries.Perm loaded

namespace Loaded

variable {state : GenesisState} {seat : Seat}

lemma exists_commitRecord (h : Loaded codec state store) {commit : MoveCommit}
    (hc : store.commits.get? seat = some commit) : ∃ c ∈ state.commits, LoadsCommit codec c (seat, commit) := by
  obtain ⟨loaded, hloaded, hperm⟩ := h.commits
  exact exists_record hloaded (hperm.mem_iff.mp (SortedMap.get?_eq_some_iff.mp hc))

lemma exists_revealRecord (h : Loaded codec state store) {reveal : MoveReveal}
    (hr : store.reveals.get? seat = some reveal) : ∃ r ∈ state.reveals, LoadsReveal codec r (seat, reveal) := by
  obtain ⟨loaded, hloaded, hperm⟩ := h.reveals
  exact exists_record hloaded (hperm.mem_iff.mp (SortedMap.get?_eq_some_iff.mp hr))

lemma exists_commit (h : Loaded codec state store) {c : CommitRecord} (hc : c ∈ state.commits) :
    ∃ seat commit, store.commits.get? seat = some commit ∧ LoadsCommit codec c (seat, commit) := by
  obtain ⟨loaded, hloaded, hperm⟩ := h.commits
  obtain ⟨⟨seat, commit⟩, he, hload⟩ := exists_loaded hloaded hc
  exact ⟨seat, commit, SortedMap.get?_eq_some_iff.mpr (hperm.mem_iff.mpr he), hload⟩

lemma commitCount (h : Loaded codec state store) (id : GameId) : store.commitCount id = state.commitCount id := by
  obtain ⟨loaded, hloaded, hperm⟩ := h.commits
  rw [GameStore.commitCount_eq_countP, hperm.countP_eq]
  refine (countP_of_forall₂ ?_ hloaded).symm
  intro c e hload
  rw [hload.1]

lemma wellFormed (h : Loaded codec state store) (hvalid : state.Valid) : store.WellFormed codec := by
  refine
    { ownId := fun hg => (h.game.mp hg).2, belowNext := ?belowNext,
      feePositive := fun hg => hvalid.feePositive _ (h.game.mp hg).1,
      prizeFits := fun hg => hvalid.prizeFits _ (h.game.mp hg).1, commitOfGame := ?commitOfGame,
      oneOrTwo := ?oneOrTwo, revealOfCommit := ?revealOfCommit, deadlineOfFull := ?deadlineOfFull,
      deadlineOfReveal := ?deadlineOfReveal, decoded := ?decoded }
  case belowNext =>
    intro id game hg
    obtain ⟨hmem, rfl⟩ := h.game.mp hg
    rw [h.nextId]
    exact hvalid.belowNext game hmem
  case commitOfGame =>
    intro seat commit hc
    obtain ⟨c, hmem, hgame, _⟩ := h.exists_commitRecord hc
    obtain ⟨g, hg, hid⟩ := hvalid.commitOfGame c hmem
    exact ⟨g, h.game.mpr ⟨hg, hid.trans hgame.symm⟩⟩
  case oneOrTwo =>
    intro id game hg
    obtain ⟨hmem, rfl⟩ := h.game.mp hg
    rw [h.commitCount]
    exact hvalid.oneOrTwo game hmem
  case revealOfCommit =>
    -- The record of the commit has the same text as that of the reveal, so it was read into the same seat.
    intro seat reveal hr
    obtain ⟨r, hmem, hgame, hplayer, _⟩ := h.exists_revealRecord hr
    obtain ⟨c, hc, hkey⟩ := List.mem_map.mp (hvalid.revealOfCommit r hmem)
    obtain ⟨hgame', htext⟩ := Prod.mk.inj hkey
    obtain ⟨⟨game, player⟩, commit, hcommit, hload, hdecode, _⟩ := h.exists_commit hc
    rw [htext, hplayer] at hdecode
    have hseat : seat = ⟨game, player⟩ := by
      cases seat
      exact congrArg₂ Seat.mk (hgame.trans (hgame'.symm.trans hload.symm)) (Except.ok.inj hdecode)
    exact ⟨commit, hseat ▸ hcommit⟩
  case deadlineOfFull =>
    intro id game hg hd
    obtain ⟨hmem, rfl⟩ := h.game.mp hg
    rw [h.commitCount]
    exact hvalid.deadlineOfFull game hmem hd
  case deadlineOfReveal =>
    intro seat reveal game hr hg
    obtain ⟨r, hmem, hgame, _⟩ := h.exists_revealRecord hr
    obtain ⟨g, hg', hid, hdeadline⟩ := hvalid.deadlineOfReveal r hmem
    rw [h.game.mpr ⟨hg', hid.trans hgame.symm⟩] at hg
    exact Option.some.inj hg ▸ hdeadline
  case decoded =>
    intro seat commit hc
    obtain ⟨c, _, _, hplayer, _⟩ := h.exists_commitRecord hc
    exact ⟨c.player, hplayer⟩

end Loaded

lemma initGenesis_eq_ok {before keeper : Keeper κ} {state : GenesisState} (h : before.initGenesis state = .ok keeper) :
    state.Valid ∧ keeper = { before with params := state.params, store := keeper.store } ∧
      Loaded keeper.codec state keeper.store := by
  simp only [initGenesis, bind_eq_ok_iff, GenesisState.validate_eq_ok_iff] at h
  obtain ⟨_, hvalid, committed, hcommits, revealed, hreveals, h⟩ := h
  obtain rfl := Except.ok.inj h
  obtain ⟨commits, hcommits, hpermc, hframec⟩ := loadCommits_eq_ok hcommits
  obtain ⟨reveals, hreveals, hpermr, hframer⟩ := loadReveals_eq_ok hreveals
  rw [foldl_setGame] at hpermc hframec
  have hgames : revealed.games = gamesById state.games :=
    (congrArg GameStore.games hframer).trans (congrArg GameStore.games hframec)
  have hcommitted : revealed.commits = committed.commits := by rw [hframer]
  have hnone : committed.reveals = ∅ := congrArg GameStore.reveals hframec
  refine ⟨hvalid, rfl, ?_⟩
  refine { nextId := ?nextId, game := ?game, commits := ⟨commits, hcommits, ?commits⟩,
           reveals := ⟨reveals, hreveals, ?reveals⟩ }
  case nextId => exact (congrArg GameStore.nextId hframer).trans (congrArg GameStore.nextId hframec)
  case game =>
    intro id game
    rw [GameStore.game?, hgames, gamesById_get? hvalid.gamesDistinct]
  case commits =>
    rw [hcommitted]
    exact hpermc.trans (.of_eq (List.append_nil commits))
  case reveals =>
    rw [hnone] at hpermr
    exact hpermr.trans (.of_eq (List.append_nil reveals))

lemma initGenesis_wellFormed {before keeper : Keeper κ} {state : GenesisState}
    (h : before.initGenesis state = .ok keeper) : keeper.store.WellFormed keeper.codec := by
  obtain ⟨hvalid, _, hloaded⟩ := initGenesis_eq_ok h
  exact hloaded.wellFormed hvalid

end Keeper

end Roshambo
