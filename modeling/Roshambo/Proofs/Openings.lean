import Mathlib.Data.List.Basic
import Roshambo.Proofs.Lifetimes

namespace Roshambo

namespace Hex

lemma digitChar_injective : ∀ m n : Fin 16, Nat.digitChar m = Nat.digitChar n → m = n := by decide

lemma pair_injective {b c : UInt8} (h : pair b = pair c) : b = c := by
  obtain ⟨hhigh, hrest⟩ := List.cons.inj h
  obtain ⟨hlow, _⟩ := List.cons.inj hrest
  have hb := b.toNat_lt
  have hc := c.toNat_lt
  have hhigh := Fin.val_eq_of_eq (digitChar_injective ⟨b.toNat / 16, by omega⟩ ⟨c.toNat / 16, by omega⟩ hhigh)
  have hlow := Fin.val_eq_of_eq (digitChar_injective ⟨b.toNat % 16, by omega⟩ ⟨c.toNat % 16, by omega⟩ hlow)
  apply UInt8.toNat_inj.mp
  simp only at hhigh hlow
  omega

lemma flatMap_pair_injective {bs cs : List UInt8} (h : bs.flatMap pair = cs.flatMap pair) : bs = cs := by
  induction bs generalizing cs with
  | nil =>
    cases cs with
    | nil => rfl
    | cons c cs => cases h
  | cons b bs ih =>
    cases cs with
    | nil => cases h
    | cons c cs =>
      obtain ⟨hpair, hrest⟩ := List.append_inj h rfl
      rw [pair_injective hpair, ih hrest]

lemma encode_injective {bs cs : List UInt8} (h : encode bs = encode cs) : bs = cs :=
  flatMap_pair_injective (String.ofList_inj.mp h)

end Hex

lemma Move.label_injective {m m' : Move} (h : m.label = m'.label) : m = m' := by
  have hread := ofLabel?_label m
  rw [h, ofLabel?_label] at hread
  exact (Option.some.inj hread).symm

lemma Move.ne_colon_of_mem_label (m : Move) : ∀ c ∈ m.label.toList, c ≠ ':' := by
  cases m <;> simp [label]

namespace Commitment

variable {move move' : Move} {salt salt' : String}

lemma opening_injective (h : opening move salt = opening move' salt') : move = move' ∧ salt = salt' := by
  -- The label is what stands before the first colon, whatever the salt holds.
  have htext := congrArg String.toList (Text.bytes_injective h)
  simp only [String.toList_append, List.append_assoc] at htext
  have hlabel : ∀ (m : Move) (s : String),
      (m.label.toList ++ (":".toList ++ s.toList)).takeWhile (· ≠ ':') = m.label.toList := by
    intro m s
    rw [List.takeWhile_append_of_pos fun c hc => decide_eq_true (m.ne_colon_of_mem_label c hc)]
    exact List.append_nil _
  obtain rfl : move = move' := by
    apply Move.label_injective
    rw [← String.toList_inj, ← hlabel move salt, htext, hlabel]
  have hsalt := List.append_cancel_left (List.append_cancel_left htext)
  exact ⟨rfl, String.toList_inj.mp hsalt⟩

lemma collision {digest : List UInt8 → List UInt8} (hne : (move, salt) ≠ (move', salt'))
    (h : Hex.encode (digest (opening move salt)) = Hex.encode (digest (opening move' salt'))) :
    opening move salt ≠ opening move' salt' ∧ digest (opening move salt) = digest (opening move' salt') := by
  refine ⟨fun hsame => hne ?_, Hex.encode_injective h⟩
  obtain ⟨rfl, rfl⟩ := opening_injective hsame
  rfl

end Commitment

variable {κ β : Type} [AddressCodec κ] [Bank β] {store : GameStore} {keeper : Keeper κ} {turn : Turn β}
  {turns : List (Turn β)} {id : GameId} {player : Address} {commit : MoveCommit}

inductive Turn.Records (turn : Turn β) (keeper : Keeper κ) (id : GameId) (player : Address) : MoveCommit → Prop
  | start {block : Block} {text : String} {commitment : Commitment} {fee : Amount} {closing : Instant}
      (call : turn.call = .startGame block text commitment fee)
      (admitted : keeper.admitStart block.time text fee = .ok (player, closing))
      (started : turn.started keeper = some id) : Records turn keeper id player ⟨commitment, block.time⟩
  | join {block : Block} {text : String} {commitment : Commitment} {fee : Amount}
      (call : turn.call = .commitMove block id text commitment)
      (admitted : keeper.admitCommit block.time id text = .ok (player, fee)) :
      Records turn keeper id player ⟨commitment, block.time⟩

lemma GameStore.commitsOf_congr {store' : GameStore}
    (h : ∀ player, store'.commit? id player = store.commit? id player) :
    store'.commitsOf id = store.commitsOf id := by
  refine List.Perm.eq_of_pairwise ?_ (ofGame_sorted store'.commits id) (ofGame_sorted store.commits id) ?_
  · intro a b _ _ hab hba
    rw [Std.OrientedCmp.gt_of_lt hab] at hba
    cases hba
  · refine (List.perm_ext_iff_of_nodup ((ofGame_players_nodup _ _).of_map _)
      ((ofGame_players_nodup _ _).of_map _)).mpr ?_
    rintro ⟨player, commit⟩
    rw [mem_ofGame, mem_ofGame]
    exact (h player).congr_left

lemma GameStore.WellFormed.game_of_commitCount {codec : κ} (h : store.WellFormed codec)
    (hcount : store.commitCount id ≠ 0) : ∃ game, store.game? id = some game := by
  by_contra hnone
  refine hcount (commitCount_eq_zero fun player => ?_)
  cases hcommit : store.commits.get? ⟨id, player⟩ with
  | none => rfl
  | some commit => exact (hnone (h.commitOfGame hcommit)).elim

namespace Turn.Effect

lemma commit_of_store (effect : turn.Effect keeper store) (h : keeper.store.WellFormed keeper.codec)
    (hcommit : store.commit? id player = some commit) :
    keeper.store.commit? id player = some commit ∨
      (keeper.store.commit? id player = none ∧ turn.Records keeper id player commit) := by
  cases effect with
  | quiet _ _ => exact Or.inl hcommit
  | start call admitted started =>
    rw [GameStore.commit?, GameStore.commits_start, SortedMap.get?_insert] at hcommit
    split at hcommit
    · rename_i hseat
      obtain ⟨rfl, rfl⟩ := Seat.mk.inj hseat
      obtain rfl := Option.some.inj hcommit
      exact Or.inr ⟨h.no_commit_at_next _, .start call admitted started⟩
    · exact Or.inl hcommit
  | join call admitted =>
    obtain ⟨_, _, _, _, _, hfresh, _⟩ := Keeper.admitCommit_eq_ok_iff.mp admitted
    rw [GameStore.commit?, GameStore.commits_setCommit, SortedMap.get?_insert] at hcommit
    split at hcommit
    · rename_i hseat
      obtain ⟨rfl, rfl⟩ := Seat.mk.inj hseat
      obtain rfl := Option.some.inj hcommit
      exact Or.inr ⟨GameStore.get?_eq_none_of_not_hasCommit hfresh, .join call admitted⟩
    · exact Or.inl hcommit
  | firstReveal _ _ _
  | reveal _ _ => exact Or.inl hcommit
  | round _ =>
    rw [GameStore.commit?, GameStore.without, SortedMap.get?_filter] at hcommit
    split at hcommit
    · exact Or.inl hcommit
    · cases hcommit

lemma commit_kept (effect : turn.Effect keeper store) (h : keeper.store.WellFormed keeper.codec)
    (stored : store.game? id ≠ none) (hcommit : keeper.store.commit? id player = some commit) :
    store.commit? id player = some commit := by
  cases effect with
  | quiet _ _ => exact hcommit
  | start _ _ _ =>
    rw [GameStore.commit?, GameStore.commits_start, SortedMap.get?_insert, if_neg]
    · exact hcommit
    · intro hseat
      obtain ⟨rfl, rfl⟩ := Seat.mk.inj hseat
      cases (h.no_commit_at_next _).symm.trans hcommit
  | join _ admitted =>
    obtain ⟨_, _, _, _, _, hfresh, _⟩ := Keeper.admitCommit_eq_ok_iff.mp admitted
    rw [GameStore.commit?, GameStore.commits_setCommit, SortedMap.get?_insert, if_neg]
    · exact hcommit
    · intro hseat
      obtain ⟨rfl, rfl⟩ := Seat.mk.inj hseat
      cases (GameStore.get?_eq_none_of_not_hasCommit hfresh).symm.trans hcommit
  | firstReveal _ _ _
  | reveal _ _ => exact hcommit
  | round _ =>
    rw [GameStore.game?_without, ne_eq, ite_eq_left_iff, not_forall] at stored
    obtain ⟨hkept, _⟩ := stored
    rw [GameStore.commit?, GameStore.without, SortedMap.get?_filter, if_pos (by simpa using hkept)]
    exact hcommit

lemma reveal_of_store (effect : turn.Effect keeper store) {seat : Seat} {reveal : MoveReveal}
    (hreveal : store.reveals.get? seat = some reveal) :
    keeper.store.reveals.get? seat = some reveal ∨
      (keeper.store.commitCount seat.game = 2 ∧ ∃ commit, keeper.store.commit? seat.game seat.player = some commit ∧
        commit.commitment.opensTo reveal.move reveal.salt) := by
  cases effect with
  | quiet _ _
  | start _ _ _
  | join _ _ => exact Or.inl hreveal
  | firstReveal _ _ admitted
  | reveal _ admitted =>
    obtain ⟨_, _, _, _, commit, hcommit, hfull, _, hopens⟩ := Keeper.admitReveal_eq_ok_iff.mp admitted
    rw [GameStore.reveals_setReveal, SortedMap.get?_insert] at hreveal
    split at hreveal
    · rename_i hseat
      obtain rfl := Option.some.inj hreveal
      exact Or.inr (hseat ▸ ⟨hfull, commit, hcommit, hopens⟩)
    · exact Or.inl hreveal
  | round _ =>
    rw [GameStore.without, SortedMap.get?_filter] at hreveal
    split at hreveal
    · exact Or.inl hreveal
    · cases hreveal

lemma commitsOf_full (effect : turn.Effect keeper store) (h : keeper.store.WellFormed keeper.codec)
    (full : keeper.store.commitCount id = 2) (stored : store.game? id ≠ none) :
    store.commitsOf id = keeper.store.commitsOf id := by
  apply GameStore.commitsOf_congr
  intro player
  cases hold : keeper.store.commit? id player with
  | some commit => exact effect.commit_kept h stored hold
  | none =>
    cases hnew : store.commit? id player with
    | none => rfl
    | some commit =>
      -- A new commit would be that of a new game or of someone who joins one that is not full.
      rcases effect.commit_of_store h hnew with hcommit | ⟨_, records⟩
      · cases hold.symm.trans hcommit
      · cases records with
        | start _ _ started =>
          rcases effect.nextId with ⟨hnone, _⟩ | ⟨hnext, _⟩
          · cases hnone.symm.trans started
          · obtain rfl := Option.some.inj (hnext.symm.trans started)
            cases (GameStore.commitCount_eq_zero h.no_commit_at_next).symm.trans full
        | join _ admitted =>
          obtain ⟨_, _, _, hcount, _⟩ := Keeper.admitCommit_eq_ok_iff.mp admitted
          rw [full] at hcount
          exact (Nat.lt_irrefl _ hcount).elim

end Turn.Effect

def GameStore.Opened (store : GameStore) : Prop :=
  ∀ seat reveal, store.reveals.get? seat = some reveal →
    ∃ commit, store.commit? seat.game seat.player = some commit ∧ commit.commitment.opensTo reveal.move reveal.salt

lemma exists_first {α : Type} {holds : List α → Prop} {as : List α} (nil : ¬ holds []) (h : holds as) :
    ∃ before a later, as = before ++ a :: later ∧ (∀ early, early <+: before → ¬ holds early) ∧
      holds (before ++ [a]) := by
  induction as generalizing holds with
  | nil => exact (nil h).elim
  | cons a rest ih =>
    by_cases hfirst : holds [a]
    · refine ⟨[], a, rest, rfl, fun early hearly => ?_, hfirst⟩
      rw [List.prefix_nil.mp hearly]
      exact nil
    · obtain ⟨before, a', later, rfl, hnone, hholds⟩ := @ih (fun as => holds (a :: as)) hfirst h
      refine ⟨a :: before, a', later, rfl, fun early hearly => ?_, hholds⟩
      rcases List.prefix_cons_iff.mp hearly with rfl | ⟨rest, rfl, hrest⟩
      · exact nil
      · exact hnone rest hrest

namespace Keeper

section Fresh

variable {codec : κ} {authority : String} {config : GameConfig}
  (created : Keeper.new codec authority config = .ok keeper)

include created

lemma opened (turns : List (Turn β)) : (keeper.after turns).store.Opened := by
  induction turns using @history_induction _ β _ _ _ _ (new_wellFormed created) with
  | nil =>
    intro seat reveal hreveal
    change keeper.store.reveals.get? seat = _ at hreveal
    rw [new_store created] at hreveal
    cases hreveal
  | concat turns turn hmet effect ih =>
    intro seat reveal hreveal
    obtain ⟨game, hgame⟩ := (after_wellFormed (new_wellFormed created) (turns ++ [turn])).revealOfGame hreveal
    have stored : (keeper.after (turns ++ [turn])).store.game? seat.game ≠ none := hgame ▸ Option.some_ne_none game
    have hopens : ∃ commit, (keeper.after turns).store.commit? seat.game seat.player = some commit ∧
        commit.commitment.opensTo reveal.move reveal.salt := by
      rcases effect.reveal_of_store hreveal with hold | ⟨_, hnew⟩
      · exact ih seat reveal hold
      · exact hnew
    obtain ⟨commit, hcommit, hopens⟩ := hopens
    exact ⟨commit, effect.commit_kept hmet stored hcommit, hopens⟩

lemma recorded (hcommit : (keeper.after turns).store.commit? id player = some commit) :
    ∃ before turn later, turns = before ++ turn :: later ∧ (keeper.after before).store.commit? id player = none ∧
      turn.Records (keeper.after before) id player commit ∧
      ∀ mid, mid <+: later → (keeper.after (before ++ turn :: mid)).store.commit? id player = some commit := by
  induction turns using @history_induction _ β _ _ _ _ (new_wellFormed created) with
  | nil =>
    change keeper.store.commit? id player = _ at hcommit
    rw [new_store created] at hcommit
    cases hcommit
  | concat turns turn hmet effect ih =>
    rcases effect.commit_of_store hmet hcommit with hold | ⟨hfresh, records⟩
    · obtain ⟨before, first, later, rfl, hfresh, records, hsince⟩ := ih hold
      refine ⟨before, first, later ++ [turn], by simp, hfresh, records, fun mid hmid => ?_⟩
      rcases List.prefix_concat_iff.mp hmid with rfl | hmid
      · rwa [List.append_assoc, List.cons_append] at hcommit
      · exact hsince mid hmid
    · refine ⟨turns, turn, [], rfl, hfresh, records, fun mid hmid => ?_⟩
      rwa [List.prefix_nil.mp hmid]

lemma commitsOf_since {before later : List (Turn β)} (full : (keeper.after before).store.commitCount id = 2)
    (stored : (keeper.after (before ++ later)).store.game? id ≠ none) :
    ∀ mid, mid <+: later →
      (keeper.after (before ++ mid)).store.commitsOf id = (keeper.after before).store.commitsOf id := by
  have hfresh := new_wellFormed created
  have hstarted : id < (keeper.after before).store.nextId := by
    have hcount : (keeper.after before).store.commitCount id ≠ 0 := by omega
    obtain ⟨game, hgame⟩ := (after_wellFormed hfresh before).game_of_commitCount hcount
    exact (after_wellFormed hfresh before).belowNext hgame
  intro mid
  induction mid using List.reverseRecOn with
  | nil => simp
  | append_singleton mid turn ih =>
    rintro ⟨rest, rfl⟩
    have hmid := ih ⟨turn :: rest, by simp⟩
    have full' : (keeper.after (before ++ mid)).store.commitCount id = 2 := by
      rw [GameStore.commitCount, hmid]
      exact full
    have stored' : (keeper.after (before ++ (mid ++ [turn]))).store.game? id ≠ none := by
      rw [← List.append_assoc] at stored
      exact stored_before created (started_later created hstarted _) stored
    have effect := effect_after hfresh (before ++ mid) turn
    rw [← List.append_assoc] at stored' ⊢
    exact (effect.commitsOf_full (after_wellFormed hfresh _) full' stored').trans hmid

lemma full_before_reveals (h : (keeper.after turns).store.revealsOf id ≠ []) :
    ∃ before later, turns = before ++ later ∧ (keeper.after before).store.commitCount id = 2 ∧
      ∀ early, early <+: before → (keeper.after early).store.revealsOf id = [] := by
  have hnew : ¬ (keeper.after ([] : List (Turn β))).store.revealsOf id ≠ [] := by
    change ¬ keeper.store.revealsOf id ≠ []
    rw [new_store created]
    exact fun hne => hne rfl
  obtain ⟨before, turn, later, rfl, hnone, hfirst⟩ :=
    @exists_first _ (fun turns => (keeper.after turns).store.revealsOf id ≠ []) _ hnew h
  simp only [not_not] at hnone
  refine ⟨before, turn :: later, rfl, ?_, hnone⟩
  have effect := effect_after (new_wellFormed created) before turn
  obtain ⟨⟨player, reveal⟩, hmem⟩ := List.exists_mem_of_ne_nil _ hfirst
  rcases effect.reveal_of_store (GameStore.mem_ofGame.mp hmem) with hold | ⟨hfull, _⟩
  · have hmem := GameStore.mem_ofGame.mpr hold
    rw [← GameStore.revealsOf, hnone before (List.prefix_refl before)] at hmem
    cases hmem
  · exact hfull

end Fresh

/-- A reveal opens a commitment to the very move and salt. Both commits of its game were recorded before anything was
revealed there, and the one that it opens has stood unchanged since the turn that put it on record; if it is also the
commitment to something else, two texts have one digest. -/
theorem reveal_binding {codec : κ} {authority : String} {config : GameConfig}
    (created : Keeper.new codec authority config = .ok keeper) {turns : List (Turn β)} {reveal : MoveReveal}
    (revealed : (keeper.after turns).store.reveals.get? ⟨id, player⟩ = some reveal) :
    (∃ before later, turns = before ++ later ∧ ((keeper.after before).store.commitsOf id).length = 2 ∧
      (∀ early, early <+: before → (keeper.after early).store.revealsOf id = []) ∧
      ∀ mid, mid <+: later →
        (keeper.after (before ++ mid)).store.commitsOf id = (keeper.after before).store.commitsOf id) ∧
    (∃ commit,
      (∃ before turn later, turns = before ++ turn :: later ∧ (keeper.after before).store.commit? id player = none ∧
        turn.Records (keeper.after before) id player commit ∧
        ∀ mid, mid <+: later → (keeper.after (before ++ turn :: mid)).store.commit? id player = some commit) ∧
      commit.commitment.text =
        Hex.encode (Sha256.digest (Text.bytes (reveal.move.label ++ ":" ++ reveal.salt))) ∧
      ∀ move salt, (move, salt) ≠ (reveal.move, reveal.salt) → commit.commitment = .of move salt →
        Commitment.opening move salt ≠ Commitment.opening reveal.move reveal.salt ∧
          Sha256.digest (Commitment.opening move salt) =
            Sha256.digest (Commitment.opening reveal.move reveal.salt)) ∧
    ∀ move salt move' salt',
      Commitment.opening move salt = Commitment.opening move' salt' → move = move' ∧ salt = salt' := by
  refine ⟨?_, ?_, fun _ _ _ _ => Commitment.opening_injective⟩
  · have hsome : (keeper.after turns).store.revealsOf id ≠ [] :=
      List.ne_nil_of_mem (GameStore.mem_ofGame.mpr revealed)
    obtain ⟨before, later, rfl, full, hnone⟩ := full_before_reveals created hsome
    obtain ⟨game, hgame⟩ := (after_wellFormed (new_wellFormed created) (before ++ later)).revealOfGame revealed
    have stored : (keeper.after (before ++ later)).store.game? id ≠ none := hgame ▸ Option.some_ne_none game
    exact ⟨before, later, rfl, full, hnone, commitsOf_since created full stored⟩
  · obtain ⟨commit, hcommit, hopens⟩ := opened created turns _ _ revealed
    rw [Commitment.opensTo, decide_eq_true_eq] at hopens
    refine ⟨commit, recorded created hcommit, hopens ▸ rfl, fun move salt hne hother => ?_⟩
    exact Commitment.collision hne (congrArg Commitment.text (hother.symm.trans hopens.symm))

end Keeper

namespace Sample

def revealing : List (Turn Accounts) :=
  [⟨.startGame ⟨1, .epoch⟩ "rps1qvdrtkhs" (.of .rock ":") ⟨5⟩, ledger.bank⟩,
    ⟨.commitMove ⟨1, .epoch⟩ 0 "rps1qynh06fd" ⟨"z"⟩,
      { ledger.bank with balances := (∅ : SortedMap Address Amount).insert ⟨[1]⟩ ⟨5⟩ }⟩,
    ⟨.revealMove ⟨1, .epoch⟩ 0 "rps1qvdrtkhs" "rock" ":", ledger.bank⟩]

lemma reveals_revealing : (fresh.after revealing).store.reveals.get? ⟨0, ⟨[3]⟩⟩ = some ⟨.rock, ":", .epoch⟩ := by
  decide +kernel

end Sample

theorem Keeper.reveal_binding_revealing :
    (∃ before later, Sample.revealing = before ++ later ∧
      ((Sample.fresh.after before).store.commitsOf 0).length = 2 ∧
      ∀ early, early <+: before → (Sample.fresh.after early).store.revealsOf 0 = []) ∧
    ∃ commit,
      (∃ before turn later, Sample.revealing = before ++ turn :: later ∧
        turn.Records (Sample.fresh.after before) 0 ⟨[3]⟩ commit) ∧
      commit.commitment.text = Hex.encode (Sha256.digest (Text.bytes (Move.rock.label ++ ":" ++ ":"))) := by
  obtain ⟨⟨before, later, hsplit, hfull, hnone, _⟩, ⟨commit, hrecorded, htext, _⟩, _⟩ :=
    reveal_binding Sample.new_fresh Sample.reveals_revealing
  obtain ⟨before', turn, later', hsplit', _, hrecords, _⟩ := hrecorded
  exact ⟨⟨before, later, hsplit, hfull, hnone⟩, commit, ⟨before', turn, later', hsplit', hrecords⟩, htext⟩

end Roshambo
