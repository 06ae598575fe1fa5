import Mathlib.Data.List.Nodup
import Mathlib.Data.List.Perm.Basic
import Roshambo.Proofs.Acceptance

namespace Roshambo

variable {κ ρ ν τ : Type}

lemma forall₂_comp {R : ρ → ν → Prop} {S : ν → τ → Prop} {T : ρ → τ → Prop} (hT : ∀ {a b c}, R a b → S b c → T a c)
    {as : List ρ} {bs : List ν} {cs : List τ} (h : List.Forall₂ R as bs) (h' : List.Forall₂ S bs cs) :
    List.Forall₂ T as cs := by
  induction h generalizing cs with
  | nil =>
    cases h'
    exact .nil
  | cons hab _ ih =>
    cases h' with
    | cons hbc h' => exact .cons (hT hab hbc) (ih h')

structure GenesisState.Rearranges (state other : GenesisState) : Prop where
  params : state.params = other.params
  nextId : state.nextId = other.nextId
  games : state.games.Perm other.games
  commits : state.commits.Perm other.commits
  reveals : state.reveals.Perm other.reveals

namespace Keeper

variable [AddressCodec κ] {codec : κ} {state other : GenesisState} {store : GameStore}

def Rewritten (codec : κ) (text text' : String) : Prop :=
  ∃ player, AddressCodec.decode codec text = .ok player ∧ AddressCodec.encode codec player = .ok text' ∧
    AddressCodec.decode codec text' = .ok player

def Ordered (codec : κ) (key key' : GameId × String) : Prop :=
  ∃ player player', AddressCodec.decode codec key.2 = .ok player ∧ AddressCodec.decode codec key'.2 = .ok player' ∧
    compare (⟨key.1, player⟩ : Seat) ⟨key'.1, player'⟩ = .lt

structure Canonical (codec : κ) (key : ρ → GameId × String) (value : ρ → ν) (records canonical : List ρ) : Prop where
  same : ∃ matched, matched.Perm records ∧ List.Forall₂ (fun r r' =>
    (key r').1 = (key r).1 ∧ value r' = value r ∧ Rewritten codec (key r).2 (key r').2) matched canonical
  ordered : canonical.Pairwise fun r r' => Ordered codec (key r) (key r')

lemma LoadsAs.ordered_iff {key key' : GameId × String} {value value' : ν} {e e' : Seat × ν}
    (h : LoadsAs codec key.1 key.2 value e) (h' : LoadsAs codec key'.1 key'.2 value' e') :
    Ordered codec key key' ↔ compare e.1 e'.1 = .lt := by
  obtain ⟨⟨game, player⟩, _⟩ := e
  obtain ⟨⟨game', player'⟩, _⟩ := e'
  obtain ⟨rfl, hplayer, _⟩ := h
  obtain ⟨rfl, hplayer', _⟩ := h'
  constructor
  · rintro ⟨p, p', hp, hp', hlt⟩
    obtain rfl := Except.ok.inj (hp.symm.trans hplayer)
    obtain rfl := Except.ok.inj (hp'.symm.trans hplayer')
    exact hlt
  · exact fun hlt => ⟨player, player', hplayer, hplayer', hlt⟩

lemma canonical_of_writes {key : ρ → GameId × String} {value : ρ → ν} {records canonical : List ρ}
    {m : SortedMap Seat ν} (loads : ∃ loaded,
      List.Forall₂ (fun r => LoadsAs codec (key r).1 (key r).2 (value r)) records loaded ∧ m.entries.Perm loaded)
    (writes : List.Forall₂ (fun r => Writes codec (key r).1 (key r).2 (value r)) canonical m.entries) :
    Canonical codec key value records canonical where
  same := by
    -- The entries are those loaded in another order, so the records are put into the order of the entries.
    obtain ⟨loaded, hloaded, hperm⟩ := loads
    obtain ⟨matched, hmatched, hrecords⟩ := List.perm_comp_forall₂ hperm hloaded.flip
    refine ⟨matched, hrecords, forall₂_comp ?_ hmatched.flip writes.flip⟩
    rintro r e r' ⟨hgame, hplayer, hvalue⟩ ⟨hencode, hgame', hplayer', hvalue'⟩
    exact ⟨hgame'.symm.trans hgame, hvalue'.symm.trans hvalue, e.1.player, hplayer, hencode, hplayer'⟩
  ordered := (pairwise_iff_of_forall₂ (fun h h' => LoadsAs.ordered_iff h.2 h'.2) writes).mpr m.sorted

lemma loads_of_perm {R : ρ → ν → Prop} {records records' : List ρ} {entries : List ν} (hperm : records'.Perm records)
    (loads : ∃ loaded, List.Forall₂ R records loaded ∧ entries.Perm loaded) :
    ∃ loaded, List.Forall₂ R records' loaded ∧ entries.Perm loaded := by
  obtain ⟨loaded, hloaded, hentries⟩ := loads
  obtain ⟨loaded', hloaded', hloads⟩ := List.perm_comp_forall₂ hperm hloaded
  exact ⟨loaded', hloaded', hentries.trans hloads.symm⟩

namespace Loaded

lemma rearranged (h : Loaded codec state store) (rearranges : other.Rearranges state) : Loaded codec other store where
  nextId := h.nextId.trans rearranges.nextId.symm
  game := by
    intro id game
    rw [h.game, rearranges.games.mem_iff]
  commits := loads_of_perm rearranges.commits h.commits
  reveals := loads_of_perm rearranges.reveals h.reveals

lemma values_perm (h : Loaded codec state store) (hvalid : state.Valid) : store.games.values.Perm state.games := by
  have hvalues : (store.games.values.map (·.id)).Nodup := by
    rw [← GameStore.keys_eq_ids fun _ _ hgame => (h.game.mp hgame).2]
    exact store.games.keys_nodup
  refine (List.perm_ext_iff_of_nodup (List.Nodup.of_map _ hvalues)
    (List.Nodup.of_map _ hvalid.gamesDistinct)).mpr fun game => ?_
  rw [SortedMap.mem_values]
  constructor
  · rintro ⟨id, hgame⟩
    exact (h.game.mp hgame).1
  · exact fun hmem => ⟨game.id, h.game.mpr ⟨hmem, rfl⟩⟩

lemma values_sorted (h : Loaded codec state store) : store.games.values.Pairwise (·.id < ·.id) := by
  have hkeys := store.keys_sorted
  rw [GameStore.keys_eq_ids fun _ _ hgame => (h.game.mp hgame).2] at hkeys
  exact List.pairwise_map.mp hkeys

end Loaded

lemma exportGenesis_of_loaded {keeper before after : Keeper κ} (loaded : Loaded keeper.codec state keeper.store)
    (hparams : state.params = keeper.params) (hcodec : before.codec = keeper.codec)
    (accepted : before.initGenesis state = .ok after) : after.exportGenesis = keeper.exportGenesis := by
  obtain ⟨_, hafter, hload⟩ := initGenesis_eq_ok accepted
  have hcodec' : after.codec = keeper.codec := by rw [hafter, hcodec]
  have hparams' : after.params = keeper.params := by rw [hafter, hparams]
  rw [hcodec'] at hload
  rw [exportGenesis, exportGenesis, hcodec', hparams', hload.unique loaded]

/-- Every state that is accepted is exported in its canonical form: the games by their ids, the records by their seats
and under the texts of the codec. The canonical form is accepted by every keeper of the codec and comes out as it is,
and the order of the lists that went in does not show. -/
theorem export_canonical {keeper next : Keeper Bech32Codec} {state : GenesisState}
    (accepted : keeper.initGenesis state = .ok next) :
    ∃ canonical, next.exportGenesis = .ok canonical ∧ canonical.params = state.params ∧
      canonical.nextId = state.nextId ∧ canonical.games.Perm state.games ∧ canonical.games.Pairwise (·.id < ·.id) ∧
      Canonical keeper.codec CommitRecord.key CommitRecord.commit state.commits canonical.commits ∧
      Canonical keeper.codec RevealRecord.key RevealRecord.reveal state.reveals canonical.reveals ∧
      ∀ other : Keeper Bech32Codec, other.codec = keeper.codec →
        (∃ again, other.initGenesis canonical = .ok again ∧ again.exportGenesis = .ok canonical) ∧
        ∀ rearranged again, GenesisState.Rearranges rearranged state → other.initGenesis rearranged = .ok again →
          again.exportGenesis = .ok canonical := by
  obtain ⟨hvalid, hnext, hloaded⟩ := initGenesis_eq_ok accepted
  have hparams : next.params = state.params := by rw [hnext]
  have hcodec : next.codec = keeper.codec := by rw [hnext]
  have wellFormed := hloaded.wellFormed hvalid
  obtain ⟨canonical, hcanonical, hcanonicalValid, hexported⟩ := exportGenesis_valid (hparams ▸ hvalid.params) wellFormed
  have hreloaded := hexported.loaded wellFormed
  refine ⟨canonical, hcanonical, hexported.params.trans hparams, hexported.nextId.trans hloaded.nextId,
    hexported.games ▸ hloaded.values_perm hvalid, hexported.games ▸ hloaded.values_sorted,
    hcodec ▸ canonical_of_writes hloaded.commits hexported.commits,
    hcodec ▸ canonical_of_writes hloaded.reveals hexported.reveals, fun other hother => ?_⟩
  have hother : other.codec = next.codec := hother.trans hcodec.symm
  constructor
  · have haccepted := (hother ▸ hreloaded : Loaded other.codec canonical next.store).initGenesis_eq_ok hcanonicalValid
    exact ⟨_, haccepted, (exportGenesis_of_loaded hreloaded hexported.params hother haccepted).trans hcanonical⟩
  · intro rearranged again rearranges haccepted
    have hparams' : rearranged.params = next.params := rearranges.params.trans hparams.symm
    exact (exportGenesis_of_loaded (hloaded.rearranged rearranges) hparams' hother haccepted).trans hcanonical

end Keeper

namespace Sample

def disordered : GenesisState where
  params := .initial
  nextId := 2
  games := [⟨1, ⟨7⟩, .epoch, none⟩, ⟨0, ⟨5⟩, .epoch, some .epoch⟩]
  commits := [⟨1, "RPS1QYNH06FD", ⟨⟨"z"⟩, .epoch⟩⟩, ⟨0, "rps1qgzffsc2", ⟨⟨"y"⟩, .epoch⟩⟩,
    ⟨0, "RPS1QYNH06FD", ⟨⟨"x"⟩, .epoch⟩⟩]
  reveals := [⟨0, "rps1qgzffsc2", ⟨.rock, "s", .epoch⟩⟩, ⟨0, "RPS1QYNH06FD", ⟨.paper, "t", .epoch⟩⟩]

def tidy : GenesisState where
  params := .initial
  nextId := 2
  games := [⟨0, ⟨5⟩, .epoch, some .epoch⟩, ⟨1, ⟨7⟩, .epoch, none⟩]
  commits := [⟨0, "rps1qynh06fd", ⟨⟨"x"⟩, .epoch⟩⟩, ⟨0, "rps1qgzffsc2", ⟨⟨"y"⟩, .epoch⟩⟩,
    ⟨1, "rps1qynh06fd", ⟨⟨"z"⟩, .epoch⟩⟩]
  reveals := [⟨0, "rps1qynh06fd", ⟨.paper, "t", .epoch⟩⟩, ⟨0, "rps1qgzffsc2", ⟨.rock, "s", .epoch⟩⟩]

end Sample

theorem Keeper.export_canonical_disordered :
    ∃ next, Sample.fresh.initGenesis Sample.disordered = .ok next ∧ next.exportGenesis = .ok Sample.tidy ∧
      Sample.tidy.games.Perm Sample.disordered.games ∧
      ∃ again, Sample.loaded.initGenesis Sample.tidy = .ok again ∧ again.exportGenesis = .ok Sample.tidy := by
  have hround : Sample.fresh.initGenesis Sample.disordered >>= exportGenesis = .ok Sample.tidy := by decide +kernel
  obtain ⟨next, accepted, hnext⟩ := bind_eq_ok_iff.mp hround
  obtain ⟨canonical, hcanonical, _, _, hgames, _, _, _, again⟩ := export_canonical accepted
  obtain rfl := Except.ok.inj (hcanonical.symm.trans hnext)
  exact ⟨next, accepted, hnext, hgames, (again Sample.loaded rfl).1⟩

end Roshambo
