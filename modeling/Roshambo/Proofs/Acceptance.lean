import Mathlib.Data.List.Pairwise
import Roshambo.Proofs.Snapshots

/-! What the checks of a state leave open is how the texts of players are read: two may be read as one player. It is
settled when the commits are loaded, and the reveals repeat texts of commits. -/

namespace Roshambo

variable {κ ρ ν : Type}

lemma Params.ne_zero_iff {window : UInt64} : ¬ window = 0 ↔ 1 ≤ window.toNat := by
  rw [← UInt64.toNat_inj, UInt64.toNat_zero, Nat.one_le_iff_ne_zero]

lemma Params.validate_eq_ok_iff {p : Params} {u : Unit} : p.validate = .ok u ↔
    (1 ≤ p.commitWindow.toNat ∧ p.commitWindow.toNat ≤ maxSeconds) ∧
      1 ≤ p.revealWindow.toNat ∧ p.revealWindow.toNat ≤ maxSeconds := by
  have hrange : ∀ window : UInt64, ¬ duration? window = none ↔ window.toNat ≤ maxSeconds := fun window => by
    rw [duration?]
    split <;> simp [*]
  simp only [validate, guard_eq_ok_iff, ne_zero_iff, hrange]
  constructor
  · rintro ⟨hcommit, hreveal, hcommit', hreveal', _⟩
    exact ⟨⟨hcommit, hcommit'⟩, hreveal, hreveal'⟩
  · rintro ⟨⟨hcommit, hcommit'⟩, hreveal, hreveal'⟩
    exact ⟨hcommit, hreveal, hcommit', hreveal', trivial⟩

lemma pairwise_iff_of_forall₂ {R : ρ → ν → Prop} {p : ρ → ρ → Prop} {q : ν → ν → Prop} {records : List ρ}
    {loaded : List ν} (hpq : ∀ {r r' e e'}, R r e → R r' e' → (p r r' ↔ q e e')) (h : List.Forall₂ R records loaded) :
    records.Pairwise p ↔ loaded.Pairwise q := by
  induction h with
  | nil => simp
  | cons hre hrest ih =>
    rw [List.pairwise_cons, List.pairwise_cons, ih]
    refine and_congr_left fun _ => ⟨fun h e' he' => ?_, fun h r' hr' => ?_⟩
    · obtain ⟨r', hr', hre'⟩ := exists_record hrest he'
      exact (hpq hre hre').mp (h r' hr')
    · obtain ⟨e', he', hre'⟩ := exists_loaded hrest hr'
      exact (hpq hre hre').mpr (h e' he')

lemma exists_forall₂ {R : ρ → ν → Prop} {records : List ρ} (h : ∀ r ∈ records, ∃ e, R r e) :
    ∃ loaded, List.Forall₂ R records loaded := by
  induction records with
  | nil => exact ⟨[], .nil⟩
  | cons r rest ih =>
    obtain ⟨⟨e, hre⟩, hrest⟩ := List.forall_mem_cons.mp h
    obtain ⟨loaded, hloaded⟩ := ih hrest
    exact ⟨e :: loaded, .cons hre hloaded⟩

namespace Keeper

variable [AddressCodec κ] {codec : κ} {state : GenesisState} {store committed : GameStore}

def Readable (codec : κ) (key : GameId × String) : Prop := ∃ player, AddressCodec.decode codec key.2 = .ok player

def Apart (codec : κ) (key key' : GameId × String) : Prop :=
  key.1 = key'.1 → ∀ player,
    AddressCodec.decode codec key.2 = .ok player → AddressCodec.decode codec key'.2 ≠ .ok player

instance : Std.Symm (Apart codec) := ⟨fun _ _ apart hgame player hread hread' => apart hgame.symm player hread' hread⟩

lemma LoadsAs.apart_iff {key key' : GameId × String} {value value' : ν} {e e' : Seat × ν}
    (h : LoadsAs codec key.1 key.2 value e) (h' : LoadsAs codec key'.1 key'.2 value' e') :
    Apart codec key key' ↔ e.1 ≠ e'.1 := by
  obtain ⟨hgame, hplayer, _⟩ := h
  obtain ⟨hgame', hplayer', _⟩ := h'
  constructor
  · intro apart hseat
    rw [← hseat] at hgame' hplayer'
    exact apart (hgame.symm.trans hgame') e.1.player hplayer hplayer'
  · intro hseat hsame player hread hread'
    have hplayers : e.1.player = e'.1.player :=
      (Except.ok.inj (hplayer.symm.trans hread)).trans (Except.ok.inj (hplayer'.symm.trans hread')).symm
    exact hseat (congrArg₂ Seat.mk (hgame.trans (hsame.trans hgame'.symm)) hplayers)

section Entries

variable {key : ρ → GameId × String} {value : ρ → ν} {records : List ρ}

lemma exists_entries (readable : ∀ r ∈ records, Readable codec (key r)) : ∃ loaded : List (Seat × ν),
    List.Forall₂ (fun r => LoadsAs codec (key r).1 (key r).2 (value r)) records loaded := by
  refine exists_forall₂ fun r hr => ?_
  obtain ⟨player, hplayer⟩ := readable r hr
  exact ⟨(⟨(key r).1, player⟩, value r), rfl, hplayer, rfl⟩

lemma apart_iff_nodup {loaded : List (Seat × ν)}
    (h : List.Forall₂ (fun r => LoadsAs codec (key r).1 (key r).2 (value r)) records loaded) :
    (records.map key).Pairwise (Apart codec) ↔ (loaded.map (·.1)).Nodup := by
  rw [List.pairwise_map, List.Nodup, List.pairwise_map]
  exact pairwise_iff_of_forall₂ LoadsAs.apart_iff h

end Entries

lemma loadCommits_ok_iff {records : List CommitRecord} (empty : store.commits = ∅) :
    (∃ committed, records.foldlM (loadCommit codec) store = .ok committed) ↔
      (∀ c ∈ records, Readable codec c.key) ∧ (records.map CommitRecord.key).Pairwise (Apart codec) := by
  constructor
  · rintro ⟨committed, h⟩
    obtain ⟨loaded, hloaded, hperm, _⟩ := loadCommits_eq_ok h
    rw [empty] at hperm
    have hperm : committed.commits.entries.Perm loaded := hperm.trans (.of_eq (List.append_nil loaded))
    refine ⟨fun c hc => ?_, (apart_iff_nodup hloaded).mpr ?_⟩
    · obtain ⟨e, _, _, hplayer, _⟩ := exists_loaded hloaded hc
      exact ⟨e.1.player, hplayer⟩
    · exact (hperm.map _).nodup_iff.mp committed.commits.keys_nodup
  · rintro ⟨readable, apart⟩
    obtain ⟨loaded, hloaded⟩ : ∃ loaded, List.Forall₂ (LoadsCommit codec) records loaded := exists_entries readable
    have hnodup : (loaded.map (·.1)).Nodup := (apart_iff_nodup hloaded).mp apart
    refine foldlM_load_ok (R := LoadsCommit codec) GameStore.commits loadCommit_ok hloaded hnodup fun e _ => ?_
    rw [empty]
    rfl

lemma loadReveals_ok (hvalid : state.Valid) (readable : ∀ c ∈ state.commits, Readable codec c.key)
    (apart : (state.commits.map CommitRecord.key).Pairwise (Apart codec)) (empty : store.reveals = ∅) :
    ∃ revealed, state.reveals.foldlM (loadReveal codec) store = .ok revealed := by
  have hreadable : ∀ r ∈ state.reveals, Readable codec r.key := by
    intro r hr
    obtain ⟨c, hc, hkey⟩ := List.mem_map.mp (hvalid.revealOfCommit r hr)
    exact hkey ▸ readable c hc
  have hapart : (state.reveals.map RevealRecord.key).Pairwise (Apart codec) := by
    refine hvalid.revealsDistinct.imp_of_mem fun {key key'} hkey hkey' hne => ?_
    obtain ⟨r, hr, rfl⟩ := List.mem_map.mp hkey
    obtain ⟨r', hr', rfl⟩ := List.mem_map.mp hkey'
    exact apart.forall (hvalid.revealOfCommit r hr) (hvalid.revealOfCommit r' hr') hne
  obtain ⟨loaded, hloaded⟩ : ∃ loaded, List.Forall₂ (LoadsReveal codec) state.reveals loaded :=
    exists_entries hreadable
  have hnodup : (loaded.map (·.1)).Nodup := (apart_iff_nodup hloaded).mp hapart
  refine foldlM_load_ok (R := LoadsReveal codec) GameStore.reveals loadReveal_ok hloaded hnodup fun e _ => ?_
  rw [empty]
  rfl

def opening (state : GenesisState) : GameStore :=
  state.games.foldl GameStore.setGame { GameStore.empty with nextId := state.nextId }

lemma commits_opening (state : GenesisState) : (opening state).commits = ∅ := by
  rw [opening, foldl_setGame]
  rfl

lemma reveals_committed (h : state.commits.foldlM (loadCommit codec) (opening state) = .ok committed) :
    committed.reveals = ∅ := by
  obtain ⟨_, _, _, hframe⟩ := loadCommits_eq_ok h
  rw [hframe, opening, foldl_setGame]
  rfl

lemma initGenesis_ok_iff {keeper : Keeper κ} :
    (∃ next, keeper.initGenesis state = .ok next) ↔
      state.validate = .ok () ∧ (∀ c ∈ state.commits, Readable keeper.codec c.key) ∧
        (state.commits.map CommitRecord.key).Pairwise (Apart keeper.codec) := by
  rw [← loadCommits_ok_iff (commits_opening state)]
  constructor
  · rintro ⟨next, h⟩
    simp only [initGenesis, bind_eq_ok_iff] at h
    obtain ⟨_, hvalid, committed, hcommits, _⟩ := h
    exact ⟨hvalid, committed, hcommits⟩
  · rintro ⟨hvalid, committed, hcommits⟩
    obtain ⟨readable, apart⟩ := (loadCommits_ok_iff (commits_opening state)).mp ⟨committed, hcommits⟩
    obtain ⟨revealed, hreveals⟩ := loadReveals_ok (GenesisState.validate_eq_ok_iff.mp hvalid) readable apart
      (reveals_committed hcommits)
    simp only [initGenesis, bind_eq_ok_iff]
    exact ⟨_, (), hvalid, committed, hcommits, revealed, hreveals, rfl⟩

end Keeper

/-- A state is valid when its windows are in range, its games have fees, ids and seats as games have, and its records
stand under different texts. It is imported when, beside this, every text of a commit is read as a player, and no two
texts of one game as the same; the reveals then load with the commits. -/
theorem GenesisState.acceptance_exact :
    (∀ s : GenesisState, s.validate = .ok () ↔
      ((1 ≤ s.params.commitWindow.toNat ∧ s.params.commitWindow.toNat ≤ 9223372036854775) ∧
        1 ≤ s.params.revealWindow.toNat ∧ s.params.revealWindow.toNat ≤ 9223372036854775) ∧
      (s.games.map (·.id)).Nodup ∧
      (∀ g ∈ s.games, g.id < s.nextId ∧ 0 < g.entryFee.toNat ∧ 2 * g.entryFee.toNat < UInt64.size) ∧
      (s.commits.map CommitRecord.key).Nodup ∧ (∀ c ∈ s.commits, ∃ g ∈ s.games, g.id = c.game) ∧
      (∀ g ∈ s.games, (s.commitCount g.id = 1 ∨ s.commitCount g.id = 2) ∧
        (g.revealDeadline ≠ none → s.commitCount g.id = 2)) ∧
      (s.reveals.map RevealRecord.key).Nodup ∧
      ∀ r ∈ s.reveals, r.key ∈ s.commits.map CommitRecord.key ∧
        ∃ g ∈ s.games, g.id = r.game ∧ g.revealDeadline ≠ none) ∧
    ∀ {κ : Type} [AddressCodec κ] (keeper : Keeper κ) (s : GenesisState),
      ((∃ next, keeper.initGenesis s = .ok next) ↔ s.validate = .ok () ∧
        (∀ c ∈ s.commits, ∃ player, AddressCodec.decode keeper.codec c.player = .ok player) ∧
        (s.commits.map CommitRecord.key).Pairwise (Keeper.Apart keeper.codec)) ∧
      (s.validate = .ok () → ∀ committed,
        s.commits.foldlM (Keeper.loadCommit keeper.codec) (Keeper.opening s) = .ok committed →
          ∃ revealed, s.reveals.foldlM (Keeper.loadReveal keeper.codec) committed = .ok revealed) := by
  constructor
  · intro s
    rw [validate_eq_ok_iff]
    constructor
    · intro h
      exact ⟨Params.validate_eq_ok_iff.mp h.params, h.gamesDistinct,
        fun g hg => ⟨h.belowNext g hg, h.feePositive g hg, h.prizeFits g hg⟩, h.commitsDistinct, h.commitOfGame,
        fun g hg => ⟨h.oneOrTwo g hg, h.deadlineOfFull g hg⟩, h.revealsDistinct,
        fun r hr => ⟨h.revealOfCommit r hr, h.deadlineOfReveal r hr⟩⟩
    · rintro ⟨windows, gamesDistinct, games, commitsDistinct, commitOfGame, counts, revealsDistinct, reveals⟩
      exact
        { params := Params.validate_eq_ok_iff.mpr windows
          gamesDistinct, commitsDistinct, commitOfGame, revealsDistinct,
          belowNext := fun g hg => (games g hg).1, feePositive := fun g hg => (games g hg).2.1,
          prizeFits := fun g hg => (games g hg).2.2, oneOrTwo := fun g hg => (counts g hg).1,
          deadlineOfFull := fun g hg => (counts g hg).2, revealOfCommit := fun r hr => (reveals r hr).1,
          deadlineOfReveal := fun r hr => (reveals r hr).2 }
  · intro κ _ keeper s
    refine ⟨Keeper.initGenesis_ok_iff, fun valid committed hcommits => ?_⟩
    obtain ⟨readable, apart⟩ := (Keeper.loadCommits_ok_iff (Keeper.commits_opening s)).mp ⟨committed, hcommits⟩
    exact Keeper.loadReveals_ok (validate_eq_ok_iff.mp valid) readable apart (Keeper.reveals_committed hcommits)

def Sample.shouted : GenesisState :=
  { state with
    commits := [⟨0, "rps1qynh06fd", ⟨⟨"x"⟩, .epoch⟩⟩, ⟨0, "RPS1QYNH06FD", ⟨⟨"y"⟩, .epoch⟩⟩]
    reveals := [] }

theorem GenesisState.acceptance_exact_shouted :
    Sample.shouted.validate = .ok () ∧ (¬ ∃ next, Sample.fresh.initGenesis Sample.shouted = .ok next) ∧
    ∃ committed, Sample.state.commits.foldlM (Keeper.loadCommit Sample.codec) (Keeper.opening Sample.state) =
        .ok committed ∧
      ∃ revealed, Sample.state.reveals.foldlM (Keeper.loadReveal Sample.codec) committed = .ok revealed := by
  obtain ⟨valid, accepted⟩ := acceptance_exact
  have lower : AddressCodec.decode Sample.codec "rps1qynh06fd" = .ok ⟨[1]⟩ := by decide +kernel
  have upper : AddressCodec.decode Sample.codec "RPS1QYNH06FD" = .ok ⟨[1]⟩ := by decide +kernel
  refine ⟨(valid Sample.shouted).mpr (by decide +kernel), fun imported => ?_, { Sample.loaded.store with reveals := ∅ },
    by decide +kernel, ?_⟩
  · obtain ⟨_, _, apart⟩ := (accepted Sample.fresh Sample.shouted).1.mp imported
    obtain ⟨hfirst, _⟩ := List.pairwise_cons.mp apart
    exact hfirst (0, "RPS1QYNH06FD") (List.mem_singleton_self _) rfl ⟨[1]⟩ lower upper
  · exact (accepted Sample.fresh Sample.state).2 (by decide +kernel) _ (by decide +kernel)

end Roshambo
