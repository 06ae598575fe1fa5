import Roshambo.Proofs.SnapshotTexts
import Roshambo.Proofs.StoredRows

/-! Accounts stand under the hexadecimal texts of their addresses, so no two of them fall together when they are read.
-/

namespace Roshambo

open Json

namespace Accounts

lemma isPrintable_toJson (a : Accounts) : IsPrintable a.toJson := by
  simp only [toJson, isPrintable_record, List.forall_mem_cons, List.forall_mem_map]
  exact ⟨isPrintable_ofText _, a.pool.isPrintable_toJson, fun e _ => e.2.isPrintable_toJson,
    fun _ h => (List.not_mem_nil h).elim⟩

lemma balancesOfJson?_record (balances : Balances) :
    balancesOfJson? (record (balances.entries.map fun e => (e.1.hex, e.2.toJson))) = some balances := by
  rw [record, balancesOfJson?, List.map_map, mapM_map_eq_some]
  · exact congrArg some balances.ofList_entries
  · intro e
    simp [Address.ofHex_hex, Except.toOption, Amount.ofJson?_toJson]

lemma ofJson?_toJson (a : Accounts) : Accounts.ofJson? a.toJson = some a := by
  have hfields : a.toJson.fields? ["module", "pool", "balances"] 3 =
      some [some (ofText a.owner), some a.pool.toJson,
        some (record (a.balances.entries.map fun e => (e.1.hex, e.2.toJson)))] := fields?_record 3
  simp [Accounts.ofJson?, hfields, text?_ofText, Amount.ofJson?_toJson, balancesOfJson?_record]

end Accounts

end Roshambo
