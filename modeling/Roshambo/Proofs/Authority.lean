import Roshambo.Proofs.Atomicity
import Roshambo.Proofs.Histories
import Roshambo.Proofs.Spellings

/-! The case of letters does not matter to the address that a text is read as, so whoever passes for the authority by
its text has the authority's address; and no other call touches the params. -/

namespace Roshambo

variable {κ β α : Type} [AddressCodec κ]

lemma Keeper.updateParams_unauthorized {keeper : Keeper κ} {text : String} {other : Address} (params : Params)
    (resolved : keeper.resolve text = .ok other) (foreign : ¬ Text.sameLetters text keeper.authority) :
    keeper.updateParams text params = .error (.unauthorized keeper.authority text) := by
  simp only [updateParams, resolved, ok_bind, foreign]
  rfl

omit [AddressCodec κ] in
lemma Transaction.Atomic.keeper_after {tx : Transaction κ β α} {ledger : Ledger κ β} (atomic : tx.Atomic)
    (kept : ∀ a next, tx ledger = .ok a next → next.keeper = { ledger.keeper with store := next.keeper.store }) :
    (tx.after ledger).keeper = { ledger.keeper with store := (tx.after ledger).keeper.store } := by
  rw [after]
  cases h : tx ledger with
  | ok a next => exact kept a next h
  | error e next =>
    obtain rfl := atomic ledger e next h
    rfl

variable [Bank β] {keeper : Keeper κ}

def Turn.adopted (turn : Turn β) (keeper : Keeper κ) : Option Params :=
  match turn.call with
  | .updateParams authority params =>
    match (Transaction.updateParams authority params).answer (⟨keeper, turn.bank⟩ : Ledger κ β) with
    | .ok () => some params
    | .error _ => none
  | _ => none

def Keeper.adopted (keeper : Keeper κ) (turns : List (Turn β)) : List Params :=
  keeper.gather (fun turn keeper => (turn.adopted keeper).toList) turns

lemma Turn.next_eq (ownIds : keeper.store.OwnIds) (turn : Turn β) :
    turn.next keeper =
      { keeper with params := (turn.adopted keeper).getD keeper.params, store := (turn.next keeper).store } := by
  obtain ⟨call, bank⟩ := turn
  cases call with
  | startGame block player commitment fee =>
    refine (Transaction.startGame_atomic block player commitment fee).keeper_after fun id next accepted => ?_
    obtain ⟨_, _, _, _, _, _, rfl⟩ := Transaction.startGame_eq_ok accepted
    rfl
  | commitMove block id player commitment =>
    refine (Transaction.commitMove_atomic block id player commitment).keeper_after fun _ next accepted => ?_
    obtain ⟨_, _, _, _, _, rfl⟩ := Transaction.commitMove_eq_ok accepted
    rfl
  | revealMove block id player label salt =>
    refine (Transaction.revealMove_atomic block id player label salt).keeper_after fun _ next accepted => ?_
    obtain ⟨_, _, _, _, rfl | ⟨_, rfl⟩⟩ := Transaction.revealMove_eq_ok accepted <;> rfl
  | updateParams authority params =>
    simp only [next, Call.apply, Transaction.after, adopted, Transaction.answer, Transaction.updateParams_eq]
    cases accepted : keeper.updateParams authority params with
    | error e => rfl
    | ok keeper' =>
      obtain ⟨_, _, _, rfl⟩ := Keeper.updateParams_eq_ok_iff.mp accepted
      rfl
  | endRound block =>
    obtain ⟨_, _, hafter⟩ := @Transaction.endRound_after _ _ _ ⟨keeper, bank⟩ ownIds block
    rw [next, Call.apply, hafter]
    rfl

namespace Keeper

lemma after_eq (h : keeper.store.WellFormed keeper.codec) (turns : List (Turn β)) :
    keeper.after turns =
      { keeper with params := (keeper.adopted turns).getLastD keeper.params, store := (keeper.after turns).store } := by
  induction turns using List.reverseRecOn with
  | nil => rfl
  | append_singleton turns turn ih =>
    have hnext := turn.next_eq (after_ownIds h turns)
    rw [after_concat, hnext, adopted, gather_concat]
    cases turn.adopted (keeper.after turns) with
    | none =>
      rw [Option.toList_none, List.append_nil, ih]
      rfl
    | some params =>
      rw [Option.toList_some, List.getLastD_concat, ih]
      rfl

lemma Reachable.created {keeper : Keeper κ} (reachable : keeper.Reachable) :
    ∃ config made, Keeper.new keeper.codec keeper.authority config = .ok made := by
  induction reachable with
  | new created =>
    obtain ⟨_, rfl⟩ := new_eq_ok created
    exact ⟨_, _, created⟩
  | load _ loaded ih =>
    obtain ⟨_, hkeeper, _⟩ := initGenesis_eq_ok loaded
    rw [hkeeper]
    exact ih
  | call reachable call bank ih =>
    have hnext := (⟨call, bank⟩ : Turn _).next_eq fun _ _ => reachable.wellFormed.ownId
    rw [Turn.next] at hnext
    rw [hnext]
    exact ih

lemma new_authority {codec : κ} {authority : String} {config : GameConfig} {made : Keeper κ}
    (created : Keeper.new codec authority config = .ok made) :
    ∃ address, AddressCodec.decode codec authority = .ok address := by
  simp only [new, bind_eq_ok_iff, mapError_eq_ok_iff] at created
  obtain ⟨address, haddress, _⟩ := created
  exact ⟨address, haddress⟩

/-- In every history the params are those at its start or those of its last accepted change. A change is accepted only
with valid params and under a text of the address that the module was made with as its authority; a text of any other
address is refused, and nothing changes. -/
theorem only_authority_moves_params {keeper : Keeper Bech32Codec} (reachable : keeper.Reachable) :
    ∃ authority, AddressCodec.decode keeper.codec keeper.authority = .ok authority ∧
      (∃ config made, Keeper.new keeper.codec keeper.authority config = .ok made) ∧
      ∀ turns : List (Turn β),
        (keeper.after turns).codec = keeper.codec ∧ (keeper.after turns).authority = keeper.authority ∧
        (keeper.after turns).params = (keeper.adopted turns).getLastD keeper.params ∧
        ∀ (bank : β) (text : String) (params : Params),
          (∀ next, Transaction.updateParams text params ⟨keeper.after turns, bank⟩ = .ok () next →
            params.validate = .ok () ∧ AddressCodec.decode keeper.codec text = .ok authority) ∧
          ∀ other, AddressCodec.decode keeper.codec text = .ok other → other ≠ authority →
            Transaction.updateParams text params ⟨keeper.after turns, bank⟩ =
              .error (.unauthorized keeper.authority text) ⟨keeper.after turns, bank⟩ := by
  obtain ⟨config, made, created⟩ := reachable.created
  obtain ⟨authority, hauthority⟩ := new_authority created
  refine ⟨authority, hauthority, ⟨config, made, created⟩, fun turns => ?_⟩
  have hafter := after_eq reachable.wellFormed turns
  have hcodec : (keeper.after turns).codec = keeper.codec := by rw [hafter]
  have hsame : (keeper.after turns).authority = keeper.authority := by rw [hafter]
  refine ⟨hcodec, hsame, by rw [hafter], fun bank text params => ⟨fun next accepted => ?_, fun other hother hne => ?_⟩⟩
  · rw [Transaction.updateParams_eq] at accepted
    cases hupdate : (keeper.after turns).updateParams text params with
    | error e =>
      simp only [hupdate] at accepted
      cases accepted
    | ok keeper' =>
      obtain ⟨⟨address, hresolve⟩, letters, hvalid, _⟩ := updateParams_eq_ok_iff.mp hupdate
      rw [resolve_eq_ok_iff, hcodec] at hresolve
      rw [hsame] at letters
      exact ⟨hvalid, Bech32Codec.decode_of_sameLetters letters hresolve hauthority ▸ hresolve⟩
  · have hresolve : (keeper.after turns).resolve text = .ok other := by
      rw [resolve_eq_ok_iff, hcodec]
      exact hother
    have foreign : ¬ Text.sameLetters text (keeper.after turns).authority := by
      intro letters
      rw [hsame] at letters
      exact hne (Bech32Codec.decode_of_sameLetters letters hother hauthority)
    simp only [Transaction.updateParams_eq, updateParams_unauthorized params hresolve foreign, hsame]

end Keeper

namespace Sample

def changes : List (Turn Accounts) :=
  [⟨.updateParams "RPS1QYNH06FD" ⟨7, 8⟩, ledger.bank⟩, ⟨.updateParams "rps1qgzffsc2" ⟨9, 9⟩, ledger.bank⟩]

end Sample

theorem Keeper.only_authority_moves_params_changes :
    (Sample.loaded.after Sample.changes).params = ⟨7, 8⟩ ∧
    (∃ next, Transaction.updateParams "RPS1QYNH06FD" ⟨5, 5⟩ ⟨Sample.loaded.after Sample.changes, Sample.ledger.bank⟩ =
      .ok () next) ∧
    AddressCodec.decode Sample.codec "RPS1QYNH06FD" = .ok ⟨[1]⟩ ∧
    Transaction.updateParams "rps1qgzffsc2" ⟨9, 9⟩ ⟨Sample.loaded.after Sample.changes, Sample.ledger.bank⟩ =
      .error (.unauthorized "rps1qynh06fd" "rps1qgzffsc2")
        ⟨Sample.loaded.after Sample.changes, Sample.ledger.bank⟩ := by
  have adopted : Sample.loaded.adopted Sample.changes = [⟨7, 8⟩] := by decide +kernel
  have decoded : AddressCodec.decode Sample.codec "rps1qynh06fd" = .ok ⟨[1]⟩ := by decide +kernel
  have foreign : AddressCodec.decode Sample.codec "rps1qgzffsc2" = .ok ⟨[2]⟩ := by decide +kernel
  obtain ⟨authority, hauthority, _, hturns⟩ := only_authority_moves_params (β := Accounts) Sample.loaded_reachable
  obtain ⟨_, _, hparams, hupdates⟩ := hturns Sample.changes
  obtain rfl := Except.ok.inj (decoded.symm.trans hauthority)
  rw [adopted] at hparams
  obtain ⟨accepted, _⟩ := hupdates Sample.ledger.bank "RPS1QYNH06FD" ⟨5, 5⟩
  obtain ⟨_, refused⟩ := hupdates Sample.ledger.bank "rps1qgzffsc2" ⟨9, 9⟩
  have update : ∃ next, Transaction.updateParams "RPS1QYNH06FD" ⟨5, 5⟩
      ⟨Sample.loaded.after Sample.changes, Sample.ledger.bank⟩ = .ok () next := by
    rw [← Transaction.answer_eq_ok_iff]
    decide +kernel
  obtain ⟨next, hnext⟩ := update
  exact ⟨hparams, ⟨next, hnext⟩, (accepted next hnext).2, refused _ foreign (by decide)⟩

end Roshambo
