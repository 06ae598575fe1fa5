import Roshambo.Genesis.State
import Roshambo.Node.Config
import Roshambo.Proofs.JsonFields
import Roshambo.Proofs.Timestamps

namespace Roshambo

open Json

lemma Json.isPrintable_ofWord (n : UInt64) : IsPrintable (ofWord n) := isPrintable_ofNat n.toNat

namespace Amount

lemma isPrintable_toJson (a : Amount) : IsPrintable a.toJson := isPrintable_ofWord a.sats

lemma ofJson?_toJson (a : Amount) : Amount.ofJson? a.toJson = some a := by
  rw [Amount.ofJson?, Amount.toJson, word?_ofWord]
  rfl

end Amount

namespace Instant

lemma isPrintable_toJson (t : Instant) : IsPrintable t.toJson := isPrintable_ofText _

lemma ofJson?_toJson (t : Instant) : Instant.ofJson? t.toJson = some t := by
  rw [Instant.ofJson?, Instant.toJson, text?_ofText, Option.bind_some, ofText?_timestamp]

end Instant

lemma Commitment.ofJson?_toJson (c : Commitment) : Commitment.ofJson? c.toJson = some c := rfl

lemma Move.ofKeptJson?_toJson (m : Move) : Move.ofKeptJson? m.toJson = some m := by
  cases m <;> rfl

namespace Params

lemma isPrintable_toJson (p : Params) : IsPrintable p.toJson := by
  simp [toJson, isPrintable_record, isPrintable_ofWord]

lemma ofJson?_toJson (p : Params) : Params.ofJson? p.toJson = some p := by
  have hfields : p.toJson.fields? ["commit_window", "reveal_window"] 2 =
      some [some (ofWord p.commitWindow), some (ofWord p.revealWindow)] := fields?_record 2
  simp [Params.ofJson?, hfields, word?_ofWord]

end Params

namespace Game

lemma isPrintable_toJson (g : Game) : IsPrintable g.toJson := by
  simp [toJson, isPrintable_record, isPrintable_ofWord, Amount.isPrintable_toJson, Instant.isPrintable_toJson,
    isPrintable_ofOption]

lemma ofJson?_toJson (g : Game) : Game.ofJson? g.toJson = some g := by
  have hfields : g.toJson.fields? ["id", "entry_fee", "commit_deadline", "reveal_deadline"] 4 =
      some [some (ofWord g.id), some g.entryFee.toJson, some g.commitDeadline.toJson,
        some (.ofOption Instant.toJson g.revealDeadline)] := fields?_record 4
  have hnull : ∀ t : Instant, t.toJson ≠ .null := fun _ h => by cases h
  have hreveal := nullable?_ofOption hnull Instant.ofJson?_toJson g.revealDeadline
  simp [Game.ofJson?, hfields, word?_ofWord, Amount.ofJson?_toJson, Instant.ofJson?_toJson, hreveal]

end Game

namespace CommitRecord

lemma isPrintable_toJson (r : CommitRecord) : IsPrintable r.toJson := by
  simp [toJson, isPrintable_record, MoveCommit.members, isPrintable_ofWord, isPrintable_ofText, Commitment.toJson,
    Instant.isPrintable_toJson]

lemma ofJson?_toJson (r : CommitRecord) : CommitRecord.ofJson? 2 r.toJson = some r := by
  have hfields : r.toJson.keptFields? ["game_id", "player", "commitment", "created_at"] 2 =
      some [some (ofWord r.game), some (ofText r.player), some r.commit.commitment.toJson,
        some r.commit.createdAt.toJson] := by
    refine keptFields?_record ?_
    simp [MoveCommit.members, isKeepable_ofWord, isKeepable_ofText, Commitment.toJson, Instant.toJson]
  simp [CommitRecord.ofJson?, hfields, word?_ofWord, text?_ofText, Commitment.ofJson?_toJson, Instant.ofJson?_toJson]

end CommitRecord

namespace RevealRecord

lemma isPrintable_toJson (r : RevealRecord) : IsPrintable r.toJson := by
  simp [toJson, isPrintable_record, MoveReveal.members, isPrintable_ofWord, isPrintable_ofText, Move.toJson,
    Instant.isPrintable_toJson]

lemma ofJson?_toJson (r : RevealRecord) : RevealRecord.ofJson? 2 r.toJson = some r := by
  have hfields : r.toJson.keptFields? ["game_id", "player", "move", "salt", "created_at"] 2 =
      some [some (ofWord r.game), some (ofText r.player), some r.reveal.move.toJson, some (ofText r.reveal.salt),
        some r.reveal.createdAt.toJson] := by
    refine keptFields?_record ?_
    simp [MoveReveal.members, isKeepable_ofWord, isKeepable_ofText, Move.toJson, Instant.toJson]
  simp [RevealRecord.ofJson?, hfields, word?_ofWord, text?_ofText, Move.ofKeptJson?_toJson, Instant.ofJson?_toJson]

end RevealRecord

namespace GenesisState

lemma isPrintable_toJson (s : GenesisState) : IsPrintable s.toJson := by
  simp only [toJson, isPrintable_record, isPrintable_array, List.forall_mem_cons, List.forall_mem_map]
  exact ⟨s.params.isPrintable_toJson, isPrintable_ofWord _, fun g _ => g.isPrintable_toJson,
    fun r _ => r.isPrintable_toJson, fun r _ => r.isPrintable_toJson, fun _ h => (List.not_mem_nil h).elim⟩

lemma ofJson?_toJson (s : GenesisState) : GenesisState.ofJson? s.toJson = some s := by
  have hfields : s.toJson.fields? ["params", "game_id", "games", "move_commits", "move_reveals"] 2 =
      some [some s.params.toJson, some (ofWord s.nextId), some (.array (s.games.map Game.toJson)),
        some (.array (s.commits.map CommitRecord.toJson)), some (.array (s.reveals.map RevealRecord.toJson))] :=
    fields?_record 2
  simp [GenesisState.ofJson?, hfields, word?_ofWord, Params.ofJson?_toJson, list?_array Game.ofJson?_toJson,
    list?_array CommitRecord.ofJson?_toJson, list?_array RevealRecord.ofJson?_toJson]

theorem ofText?_text (s : GenesisState) : ofText? s.text = some s := by
  rw [ofText?, text, parse?_compact s.isPrintable_toJson, Option.bind_some, ofJson?_toJson]

theorem ofText?_pretty (s : GenesisState) : ofText? s.toJson.pretty = some s := by
  rw [ofText?, parse?_pretty s.isPrintable_toJson, Option.bind_some, ofJson?_toJson]

end GenesisState

section Configuration

lemma LedgerConfig.ofJson?_toJson (c : LedgerConfig) : LedgerConfig.ofJson? c.toJson = some c := by
  have hfields : c.toJson.fields? ["address_prefix", "module_account", "authority_module"] 3 =
      some [some (ofText c.addressPrefix), some (ofText c.moduleAccount), some (ofText c.authorityModule)] :=
    fields?_record 3
  simp [LedgerConfig.ofJson?, hfields, text?_ofText]

lemma SettlementPolicy.ofJson?_toJson (p : SettlementPolicy) : SettlementPolicy.ofJson? p.toJson = some p := by
  cases p <;> rfl

lemma GameConfig.ofJson?_toJson (c : GameConfig) : GameConfig.ofJson? c.toJson = some c := by
  have hfields : c.toJson.fields? ["params", "settlement"] 0 = some [some c.params.toJson, some c.settlement.toJson] :=
    fields?_record 0
  simp [GameConfig.ofJson?, hfields, Params.ofJson?_toJson, SettlementPolicy.ofJson?_toJson]

namespace NodeConfig

lemma isPrintable_toJson (c : NodeConfig) : IsPrintable c.toJson := by
  simp [toJson, LedgerConfig.toJson, GameConfig.toJson, SettlementPolicy.toJson, isPrintable_record, isPrintable_ofText,
    Params.isPrintable_toJson]

lemma ofJson?_toJson (c : NodeConfig) : NodeConfig.ofJson? c.toJson = some c := by
  have hfields : c.toJson.fields? ["ledger", "game"] 0 = some [some c.ledger.toJson, some c.game.toJson] :=
    fields?_record 0
  simp [NodeConfig.ofJson?, hfields, LedgerConfig.ofJson?_toJson, GameConfig.ofJson?_toJson]

lemma ofText?_pretty (c : NodeConfig) : ofText? c.toJson.pretty = some c := by
  rw [ofText?, parse?_pretty c.isPrintable_toJson, Option.bind_some, ofJson?_toJson]

end NodeConfig

end Configuration

end Roshambo
