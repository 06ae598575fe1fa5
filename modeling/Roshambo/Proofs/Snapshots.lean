import Roshambo.Proofs.AddressTexts
import Roshambo.Proofs.Reachability

namespace Roshambo

variable {κ ρ ν : Type} [AddressCodec κ]

section Params

variable {β : Type} [Bank β] {ledger next : Ledger κ β}

lemma Step.params_valid (step : Step ledger next) (h : ledger.keeper.params.validate = .ok ()) :
    next.keeper.params.validate = .ok () := by
  cases step with
  | start | join | firstReveal | reveal => exact h
  | setParams accepted =>
    obtain ⟨_, _, hparams, rfl⟩ := Keeper.updateParams_eq_ok_iff.mp accepted
    exact hparams
  | settle settled =>
    obtain ⟨_, _, _, _, _, rfl⟩ := Transaction.settleGame_eq_some settled
    exact h

lemma Steps.params_valid (steps : Steps ledger next) (h : ledger.keeper.params.validate = .ok ()) :
    next.keeper.params.validate = .ok () := by
  induction steps with
  | refl => exact h
  | tail _ step ih => exact step.params_valid ih

end Params

namespace Keeper

lemma Reachable.params_valid {keeper : Keeper κ} (reachable : keeper.Reachable) :
    keeper.params.validate = .ok () := by
  induction reachable with
  | new created =>
    obtain ⟨hparams, rfl⟩ := new_eq_ok created
    exact hparams
  | load _ loaded _ =>
    obtain ⟨hvalid, hkeeper, _⟩ := initGenesis_eq_ok loaded
    rw [hkeeper]
    exact hvalid.params
  | call _ call bank ih => exact (call.apply_steps ⟨_, bank⟩).params_valid ih

variable {codec : κ} {state : GenesisState} {store store' : GameStore}

lemma LoadsAs.unique {id : GameId} {player : String} {value : ν} {e e' : Seat × ν}
    (h : LoadsAs codec id player value e) (h' : LoadsAs codec id player value e') : e = e' := by
  obtain ⟨hid, hplayer, hvalue⟩ := h
  obtain ⟨hid', hplayer', hvalue'⟩ := h'
  have hseat : e.1 = e'.1 :=
    congrArg₂ Seat.mk (hid.trans hid'.symm) (Except.ok.inj (hplayer.symm.trans hplayer'))
  exact Prod.ext hseat (hvalue.trans hvalue'.symm)

lemma eq_of_loaded {R : ρ → Seat × ν → Prop} (hunique : Relator.RightUnique R) {records : List ρ}
    {m m' : SortedMap Seat ν} (h : ∃ loaded, List.Forall₂ R records loaded ∧ m.entries.Perm loaded)
    (h' : ∃ loaded, List.Forall₂ R records loaded ∧ m'.entries.Perm loaded) : m = m' := by
  obtain ⟨loaded, hloaded, hperm⟩ := h
  obtain ⟨loaded', hloaded', hperm'⟩ := h'
  obtain rfl := List.right_unique_forall₂' hunique hloaded hloaded'
  exact SortedMap.eq_of_entries (SortedMap.eq_of_sorted m.sorted m'.sorted fun _ => (hperm.trans hperm'.symm).mem_iff)

lemma Loaded.unique (h : Loaded codec state store) (h' : Loaded codec state store') : store = store' := by
  have hgames : store.games = store'.games := by
    apply SortedMap.ext_get?
    intro id
    apply Option.ext
    intro game
    exact h.game.trans h'.game.symm
  have hcommits := eq_of_loaded (R := LoadsCommit codec) (fun _ _ _ => LoadsAs.unique) h.commits h'.commits
  have hreveals := eq_of_loaded (R := LoadsReveal codec) (fun _ _ _ => LoadsAs.unique) h.reveals h'.reveals
  have hnext := h.nextId.trans h'.nextId.symm
  cases store
  cases store'
  simp only at hgames hcommits hreveals hnext
  rw [hgames, hcommits, hreveals, hnext]

lemma foldlM_load_ok {σ ε : Type} {step : σ → ρ → Except ε σ} {R : ρ → Seat × ν → Prop} (view : σ → SortedMap Seat ν)
    (hstep : ∀ {s r e}, R r e → (view s).get? e.1 = none → ∃ s', step s r = .ok s' ∧ view s' = (view s).insert e.1 e.2)
    {records : List ρ} {loaded : List (Seat × ν)} (h : List.Forall₂ R records loaded)
    (hnodup : (loaded.map (·.1)).Nodup) {s : σ} (hfresh : ∀ e ∈ loaded, (view s).get? e.1 = none) :
    ∃ s', records.foldlM step s = .ok s' := by
  induction h generalizing s with
  | nil => exact ⟨s, rfl⟩
  | @cons r e rest loaded hre _ ih =>
    obtain ⟨hout, hnodup⟩ := List.nodup_cons.mp hnodup
    obtain ⟨hnone, hfresh⟩ := List.forall_mem_cons.mp hfresh
    obtain ⟨s', hs', hview⟩ := hstep hre hnone
    rw [List.foldlM_cons, hs', ok_bind]
    refine ih hnodup fun e' he' => ?_
    have hne : e'.1 ≠ e.1 := fun heq => hout (List.mem_map.mpr ⟨e', he', heq⟩)
    rw [hview, SortedMap.get?_insert, if_neg hne]
    exact hfresh e' he'

lemma loadCommit_ok {c : CommitRecord} {e : Seat × MoveCommit} (h : LoadsCommit codec c e)
    (hnone : store.commits.get? e.1 = none) :
    ∃ store', loadCommit codec store c = .ok store' ∧ store'.commits = store.commits.insert e.1 e.2 := by
  obtain ⟨⟨game, player⟩, commit⟩ := e
  obtain ⟨rfl, hplayer, rfl⟩ := h
  have hfree : ¬ store.hasCommit c.game player = true := by
    simp [GameStore.hasCommit, SortedMap.contains, hnone]
  refine ⟨store.setCommit c.game player c.commit, ?_, rfl⟩
  simp only [loadCommit, decodePlayer, bind_eq_ok_iff, mapError_eq_ok_iff, throw_bind]
  exact ⟨player, hplayer, if_neg hfree⟩

lemma loadReveal_ok {r : RevealRecord} {e : Seat × MoveReveal} (h : LoadsReveal codec r e)
    (hnone : store.reveals.get? e.1 = none) :
    ∃ store', loadReveal codec store r = .ok store' ∧ store'.reveals = store.reveals.insert e.1 e.2 := by
  obtain ⟨⟨game, player⟩, reveal⟩ := e
  obtain ⟨rfl, hplayer, rfl⟩ := h
  have hfree : ¬ store.hasReveal r.game player = true := by
    simp [GameStore.hasReveal, SortedMap.contains, hnone]
  refine ⟨store.setReveal r.game player r.reveal, ?_, rfl⟩
  simp only [loadReveal, decodePlayer, bind_eq_ok_iff, mapError_eq_ok_iff, throw_bind]
  exact ⟨player, hplayer, if_neg hfree⟩

lemma Loaded.initGenesis_eq_ok {keeper : Keeper κ} (h : Loaded keeper.codec state store) (hvalid : state.Valid) :
    keeper.initGenesis state = .ok { keeper with params := state.params, store := store } := by
  obtain ⟨commits, hcommits, hpermc⟩ := h.commits
  obtain ⟨reveals, hreveals, hpermr⟩ := h.reveals
  obtain ⟨committed, hcommitted⟩ := foldlM_load_ok (R := LoadsCommit keeper.codec) GameStore.commits loadCommit_ok
    hcommits ((hpermc.map _).nodup_iff.mp store.commits.keys_nodup)
    (s := state.games.foldl GameStore.setGame { GameStore.empty with nextId := state.nextId })
    (fun _ _ => by rw [foldl_setGame]; rfl)
  obtain ⟨_, _, _, hframe⟩ := loadCommits_eq_ok hcommitted
  obtain ⟨revealed, hrevealed⟩ := foldlM_load_ok (R := LoadsReveal keeper.codec) GameStore.reveals loadReveal_ok
    hreveals ((hpermr.map _).nodup_iff.mp store.reveals.keys_nodup) (s := committed)
    (fun _ _ => by rw [hframe, foldl_setGame]; rfl)
  have hok : keeper.initGenesis state = .ok { keeper with params := state.params, store := revealed } := by
    simp only [initGenesis, bind_eq_ok_iff]
    exact ⟨(), GenesisState.validate_eq_ok_iff.mpr hvalid, committed, hcommitted, revealed, hrevealed, rfl⟩
  obtain ⟨_, _, hloaded⟩ := Keeper.initGenesis_eq_ok hok
  rw [hok, h.unique hloaded]

def Writes (codec : κ) (id : GameId) (player : String) (value : ν) (e : Seat × ν) : Prop :=
  AddressCodec.encode codec e.1.player = .ok player ∧ LoadsAs codec id player value e

def WritesCommit (codec : κ) (c : CommitRecord) : Seat × MoveCommit → Prop := Writes codec c.game c.player c.commit

def WritesReveal (codec : κ) (r : RevealRecord) : Seat × MoveReveal → Prop := Writes codec r.game r.player r.reveal

structure Exported (keeper : Keeper κ) (state : GenesisState) : Prop where
  params : state.params = keeper.params
  nextId : state.nextId = keeper.store.nextId
  games : state.games = keeper.store.games.values
  commits : List.Forall₂ (WritesCommit keeper.codec) state.commits keeper.store.commits.entries
  reveals : List.Forall₂ (WritesReveal keeper.codec) state.reveals keeper.store.reveals.entries

def Legible (codec : κ) (seat : Seat) : Prop :=
  ∃ text, AddressCodec.encode codec seat.player = .ok text ∧ AddressCodec.decode codec text = .ok seat.player

lemma mapM_writes {ε : Type} {R : ρ → Seat × ν → Prop} (write : Seat × ν → Except ε ρ) (entries : List (Seat × ν))
    (h : ∀ e ∈ entries, ∃ r, write e = .ok r ∧ R r e) :
    ∃ records, entries.mapM write = .ok records ∧ List.Forall₂ R records entries := by
  induction entries with
  | nil => exact ⟨[], rfl, .nil⟩
  | cons e rest ih =>
    obtain ⟨⟨r, hr, hre⟩, hrest⟩ := List.forall_mem_cons.mp h
    obtain ⟨records, hrecords, hrel⟩ := ih hrest
    refine ⟨r :: records, ?_, .cons hre hrel⟩
    rw [List.mapM_cons, hr, hrecords]
    rfl

lemma exportGenesis_eq_ok {keeper : Keeper κ} (hcommits : ∀ seat ∈ keeper.store.commits.keys, Legible keeper.codec seat)
    (hreveals : ∀ seat ∈ keeper.store.reveals.keys, Legible keeper.codec seat) :
    ∃ state, keeper.exportGenesis = .ok state ∧ Exported keeper state := by
  obtain ⟨commits, hwritten, hrel⟩ := mapM_writes (R := WritesCommit keeper.codec)
    (fun e => return ⟨e.1.game, ← encodePlayer keeper.codec e.1.player, e.2⟩) keeper.store.commits.entries
    (fun e he => by
      obtain ⟨text, hencode, hdecode⟩ := hcommits e.1 (List.mem_map_of_mem he)
      exact ⟨⟨e.1.game, text, e.2⟩, by rw [encodePlayer, hencode]; rfl, hencode, rfl, hdecode, rfl⟩)
  obtain ⟨reveals, hwritten', hrel'⟩ := mapM_writes (R := WritesReveal keeper.codec)
    (fun e => return ⟨e.1.game, ← encodePlayer keeper.codec e.1.player, e.2⟩) keeper.store.reveals.entries
    (fun e he => by
      obtain ⟨text, hencode, hdecode⟩ := hreveals e.1 (List.mem_map_of_mem he)
      exact ⟨⟨e.1.game, text, e.2⟩, by rw [encodePlayer, hencode]; rfl, hencode, rfl, hdecode, rfl⟩)
  refine ⟨⟨keeper.params, keeper.store.nextId, keeper.store.games.values, commits, reveals⟩, ?_, rfl, rfl, rfl, hrel,
    hrel'⟩
  simp only [exportGenesis, bind_eq_ok_iff]
  exact ⟨commits, hwritten, reveals, hwritten', rfl⟩

namespace Exported

variable {keeper : Keeper κ}

lemma loaded (h : Exported keeper state) (wellFormed : keeper.store.WellFormed keeper.codec) :
    Loaded keeper.codec state keeper.store where
  nextId := h.nextId.symm
  game := by
    intro id game
    rw [h.games, SortedMap.mem_values]
    constructor
    · intro hgame
      exact ⟨⟨id, hgame⟩, wellFormed.ownId hgame⟩
    · rintro ⟨⟨id', hgame⟩, rfl⟩
      rwa [wellFormed.ownId hgame]
  commits := ⟨_, h.commits.imp fun _ _ hwrites => hwrites.2, .refl _⟩
  reveals := ⟨_, h.reveals.imp fun _ _ hwrites => hwrites.2, .refl _⟩

lemma keys_nodup {R : ρ → Seat × ν → Prop} {key : ρ → GameId × String} {records : List ρ} {entries : List (Seat × ν)}
    (hkey : ∀ {r r' e e'}, R r e → R r' e' → key r = key r' → e.1 = e'.1) (h : List.Forall₂ R records entries)
    (hnodup : (entries.map (·.1)).Nodup) : (records.map key).Nodup := by
  induction h with
  | nil => exact .nil
  | cons hre hrel ih =>
    obtain ⟨hout, hnodup⟩ := List.nodup_cons.mp hnodup
    refine List.nodup_cons.mpr ⟨fun hmem => hout ?_, ih hnodup⟩
    obtain ⟨r', hr', hsame⟩ := List.mem_map.mp hmem
    obtain ⟨e', he', hre'⟩ := exists_loaded hrel hr'
    exact List.mem_map.mpr ⟨e', he', hkey hre' hre hsame⟩

lemma Writes.seat_eq {id id' : GameId} {player player' : String} {value value' : ν} {e e' : Seat × ν}
    (h : Writes codec id player value e) (h' : Writes codec id' player' value' e')
    (hkey : (id, player) = (id', player')) : e.1 = e'.1 := by
  obtain ⟨rfl, rfl⟩ := Prod.mk.inj hkey
  obtain ⟨_, hid, hplayer, _⟩ := h
  obtain ⟨_, hid', hplayer', _⟩ := h'
  exact congrArg₂ Seat.mk (hid.trans hid'.symm) (Except.ok.inj (hplayer.symm.trans hplayer'))

lemma valid (h : Exported keeper state) (hparams : keeper.params.validate = .ok ())
    (wellFormed : keeper.store.WellFormed keeper.codec) : state.Valid := by
  have hload := h.loaded wellFormed
  have hgame : ∀ {g}, g ∈ state.games ↔ keeper.store.game? g.id = some g := by
    intro g
    rw [hload.game]
    exact (and_iff_left rfl).symm
  refine
    { params := h.params ▸ hparams, belowNext := ?belowNext,
      feePositive := fun g hg => wellFormed.feePositive (hgame.mp hg),
      prizeFits := fun g hg => wellFormed.prizeFits (hgame.mp hg), gamesDistinct := ?gamesDistinct,
      commitOfGame := ?commitOfGame,
      commitsDistinct := keys_nodup Writes.seat_eq h.commits keeper.store.commits.keys_nodup, oneOrTwo := ?oneOrTwo,
      deadlineOfFull := ?deadlineOfFull, revealOfCommit := ?revealOfCommit,
      revealsDistinct := keys_nodup Writes.seat_eq h.reveals keeper.store.reveals.keys_nodup,
      deadlineOfReveal := ?deadlineOfReveal }
  case belowNext =>
    intro g hg
    rw [h.nextId]
    exact wellFormed.belowNext (hgame.mp hg)
  case gamesDistinct =>
    rw [h.games, ← GameStore.keys_eq_ids fun _ _ => wellFormed.ownId]
    exact SortedMap.keys_nodup _
  case commitOfGame =>
    intro c hc
    obtain ⟨⟨seat, commit⟩, hcommit, _, hid, _⟩ := exists_loaded h.commits hc
    obtain ⟨g, hg⟩ := wellFormed.commitOfGame (SortedMap.get?_eq_some_iff.mpr hcommit)
    exact ⟨g, (hload.game.mp hg).1, (wellFormed.ownId hg).trans hid⟩
  case oneOrTwo =>
    intro g hg
    rw [← hload.commitCount]
    exact wellFormed.oneOrTwo (hgame.mp hg)
  case deadlineOfFull =>
    intro g hg hd
    rw [← hload.commitCount]
    exact wellFormed.deadlineOfFull (hgame.mp hg) hd
  case revealOfCommit =>
    -- The commit of the same seat was written under the same text, since writing is a function.
    intro r hr
    obtain ⟨⟨seat, reveal⟩, hreveal, htext, hid, _⟩ := exists_loaded h.reveals hr
    obtain ⟨commit, hcommit⟩ := wellFormed.revealOfCommit (SortedMap.get?_eq_some_iff.mpr hreveal)
    obtain ⟨c, hc, htext', hid', _⟩ := exists_record h.commits (SortedMap.get?_eq_some_iff.mp hcommit)
    have hkey : c.key = r.key :=
      congrArg₂ Prod.mk (hid'.symm.trans hid) (Except.ok.inj (htext'.symm.trans htext))
    exact hkey ▸ List.mem_map_of_mem hc
  case deadlineOfReveal =>
    intro r hr
    obtain ⟨⟨seat, reveal⟩, hreveal, _, hid, _⟩ := exists_loaded h.reveals hr
    have hreveal := SortedMap.get?_eq_some_iff.mpr hreveal
    obtain ⟨g, hg⟩ := wellFormed.revealOfGame hreveal
    exact ⟨g, (hload.game.mp hg).1, (wellFormed.ownId hg).trans hid, wellFormed.deadlineOfReveal hreveal hg⟩

end Exported

lemma Legible.of_wellFormed (hwrite : ∀ {text address}, AddressCodec.decode codec text = .ok address →
      ∃ text, AddressCodec.encode codec address = .ok text ∧ AddressCodec.decode codec text = .ok address)
    (wellFormed : store.WellFormed codec) :
    (∀ seat ∈ store.commits.keys, Legible codec seat) ∧ ∀ seat ∈ store.reveals.keys, Legible codec seat := by
  constructor
  · intro seat hseat
    obtain ⟨_, hcommit⟩ := SortedMap.mem_keys.mp hseat
    obtain ⟨_, htext⟩ := wellFormed.decoded hcommit
    exact hwrite htext
  · intro seat hseat
    obtain ⟨_, hreveal⟩ := SortedMap.mem_keys.mp hseat
    obtain ⟨_, htext⟩ := wellFormed.revealDecoded hreveal
    exact hwrite htext

lemma exportGenesis_valid {keeper : Keeper Bech32Codec} (hparams : keeper.params.validate = .ok ())
    (wellFormed : keeper.store.WellFormed keeper.codec) :
    ∃ state, keeper.exportGenesis = .ok state ∧ state.Valid ∧ Exported keeper state := by
  have hwrite : ∀ {text address}, AddressCodec.decode keeper.codec text = .ok address →
      ∃ text, AddressCodec.encode keeper.codec address = .ok text ∧
        AddressCodec.decode keeper.codec text = .ok address := by
    intro text address htext
    obtain ⟨hpos, hlength⟩ := Bech32Codec.length_of_decode htext
    exact Bech32Codec.decode_encode (List.ne_nil_of_length_pos hpos) hlength
  obtain ⟨hcommits, hreveals⟩ := Legible.of_wellFormed hwrite wellFormed
  obtain ⟨state, hstate, hexported⟩ := exportGenesis_eq_ok hcommits hreveals
  exact ⟨state, hstate, hexported.valid hparams wellFormed, hexported⟩

/-- Whatever was imported and called, the state can be written; it is valid, and every keeper under the same prefix
that loads it holds the same params and records. -/
theorem snapshot_restores {keeper : Keeper Bech32Codec} (reachable : keeper.Reachable) :
    ∃ state, keeper.exportGenesis = .ok state ∧ state.validate = .ok () ∧
      ∀ other : Keeper Bech32Codec, other.codec.hrp.text = keeper.codec.hrp.text →
        other.initGenesis state = .ok { other with params := keeper.params, store := keeper.store } := by
  obtain ⟨state, hstate, hvalid, hexported⟩ := exportGenesis_valid reachable.params_valid reachable.wellFormed
  refine ⟨state, hstate, GenesisState.validate_eq_ok_iff.mpr hvalid, fun other hprefix => ?_⟩
  have hcodec : keeper.codec = other.codec := by
    obtain ⟨⟨text, sound⟩, _⟩ := keeper
    obtain ⟨⟨text', sound'⟩, _⟩ := other
    obtain rfl : text' = text := hprefix
    rfl
  have hload := hexported.loaded reachable.wellFormed
  rw [hcodec] at hload
  rw [hload.initGenesis_eq_ok hvalid, hexported.params]

end Keeper

theorem Keeper.snapshot_restores_loaded :
    Sample.loaded.exportGenesis = .ok Sample.state ∧
      ∀ other : Keeper Bech32Codec, other.codec.hrp.text = "rps" →
        other.initGenesis Sample.state = .ok { other with params := .initial, store := Sample.loaded.store } := by
  have hstate : Sample.loaded.exportGenesis = .ok Sample.state := by decide +kernel
  obtain ⟨state, hexport, _, hload⟩ := snapshot_restores Sample.loaded_reachable
  obtain rfl := Except.ok.inj (hexport.symm.trans hstate)
  exact ⟨hstate, hload⟩

end Roshambo
