import Roshambo.Proofs.AddressTexts
import Roshambo.Proofs.GenesisLoading

namespace Roshambo

variable {κ : Type} [AddressCodec κ]

inductive Keeper.Reachable : Keeper κ → Prop
  | new {codec : κ} {authority : String} {config : GameConfig} {keeper : Keeper κ}
      (created : Keeper.new codec authority config = .ok keeper) : Reachable keeper
  | load {before keeper : Keeper κ} {state : GenesisState} (reachable : Reachable before)
      (loaded : before.initGenesis state = .ok keeper) : Reachable keeper
  | call {keeper : Keeper κ} {β : Type} [Bank β] (reachable : Reachable keeper) (call : Call) (bank : β) :
      Reachable (call.apply ⟨keeper, bank⟩).keeper

namespace Keeper

lemma new_eq_ok {codec : κ} {authority : String} {config : GameConfig} {keeper : Keeper κ}
    (h : Keeper.new codec authority config = .ok keeper) :
    config.params.validate = .ok () ∧ keeper = ⟨codec, authority, config.params, config.settlement, .empty⟩ := by
  simp only [new, checkParams, bind_eq_ok_iff, mapError_eq_ok_iff] at h
  obtain ⟨_, _, _, hparams, h⟩ := h
  exact ⟨hparams, (Except.ok.inj h).symm⟩

lemma new_wellFormed {codec : κ} {authority : String} {config : GameConfig} {keeper : Keeper κ}
    (h : Keeper.new codec authority config = .ok keeper) : keeper.store.WellFormed keeper.codec := by
  obtain ⟨_, rfl⟩ := new_eq_ok h
  exact GameStore.wellFormed_empty

lemma Reachable.wellFormed {keeper : Keeper κ} (reachable : keeper.Reachable) :
    keeper.store.WellFormed keeper.codec := by
  induction reachable with
  | new created => exact new_wellFormed created
  | load _ loaded _ => exact initGenesis_wellFormed loaded
  | call _ call bank ih => exact (call.apply_steps ⟨_, bank⟩).wellFormed ih

end Keeper

def Keeper.Started (keeper : Keeper κ) : Prop :=
  (∃ codec authority config, Keeper.new codec authority config = .ok keeper) ∨
    ∃ (before : Keeper κ) (state : GenesisState), before.initGenesis state = .ok keeper

lemma Keeper.Started.wellFormed {keeper : Keeper κ} (started : keeper.Started) :
    keeper.store.WellFormed keeper.codec := by
  rcases started with ⟨_, _, _, created⟩ | ⟨_, _, loaded⟩
  · exact new_wellFormed created
  · exact initGenesis_wellFormed loaded

/-- Whatever was imported and called, the records hang together, and players stand under addresses that their codec
has read. -/
theorem Keeper.records_invariant :
    (∀ {κ : Type} [AddressCodec κ] {keeper : Keeper κ}, keeper.Reachable → keeper.store.WellFormed keeper.codec) ∧
      ∀ {keeper : Keeper Bech32Codec}, keeper.Reachable → ∀ seat : Seat,
        seat ∈ keeper.store.commits.keys ∨ seat ∈ keeper.store.reveals.keys →
          1 ≤ seat.player.bytes.length ∧ seat.player.bytes.length ≤ 255 := by
  refine ⟨fun reachable => reachable.wellFormed, ?_⟩
  intro keeper reachable seat hseat
  have hread : ∃ text, AddressCodec.decode keeper.codec text = .ok seat.player := by
    rcases hseat with hseat | hseat
    · obtain ⟨commit, hcommit⟩ := SortedMap.mem_keys.mp hseat
      exact reachable.wellFormed.decoded hcommit
    · obtain ⟨reveal, hreveal⟩ := SortedMap.mem_keys.mp hseat
      exact reachable.wellFormed.revealDecoded hreveal
  obtain ⟨text, htext⟩ := hread
  exact Bech32Codec.length_of_decode htext

namespace Sample

def codec : Bech32Codec := ⟨⟨"rps", by decide +kernel⟩⟩

def fresh : Keeper Bech32Codec := ⟨codec, "rps1qynh06fd", .initial, .failFast, .empty⟩

def state : GenesisState where
  params := .initial
  nextId := 1
  games := [⟨0, ⟨5⟩, .epoch, some .epoch⟩]
  commits := [⟨0, "rps1qynh06fd", ⟨⟨"x"⟩, .epoch⟩⟩, ⟨0, "rps1qgzffsc2", ⟨⟨"y"⟩, .epoch⟩⟩]
  reveals := [⟨0, "rps1qgzffsc2", ⟨.rock, "s", .epoch⟩⟩]

def loaded : Keeper Bech32Codec :=
  { fresh with
    store := (((({ GameStore.empty with nextId := 1 }.setGame ⟨0, ⟨5⟩, .epoch, some .epoch⟩).setCommit
      0 ⟨[1]⟩ ⟨⟨"x"⟩, .epoch⟩).setCommit 0 ⟨[2]⟩ ⟨⟨"y"⟩, .epoch⟩).setReveal 0 ⟨[2]⟩ ⟨.rock, "s", .epoch⟩) }

lemma new_fresh : Keeper.new codec "rps1qynh06fd" .initial = .ok fresh := by decide +kernel

lemma load_state : fresh.initGenesis state = .ok loaded := by decide +kernel

lemma loaded_reachable : loaded.Reachable := .load (.new new_fresh) load_state

end Sample

theorem Keeper.records_invariant_loaded :
    Sample.loaded.store.reveals.size = 1 ∧ Sample.loaded.store.WellFormed Sample.codec ∧
      ∀ seat : Seat, seat ∈ Sample.loaded.store.commits.keys ∨ seat ∈ Sample.loaded.store.reveals.keys →
        1 ≤ seat.player.bytes.length ∧ seat.player.bytes.length ≤ 255 :=
  ⟨by decide, records_invariant.1 Sample.loaded_reachable, records_invariant.2 Sample.loaded_reachable⟩

end Roshambo
