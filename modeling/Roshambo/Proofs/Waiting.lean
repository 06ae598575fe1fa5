import Roshambo.Proofs.Delays
import Roshambo.Proofs.Stores

/-! A game waits, or it has its ending, which does not depend on the time; so two sweeps one after the other settle
what the later one would have settled alone. -/

namespace Roshambo

lemma Game.commitClosed_iff {game : Game} {now : Instant} : game.commitClosed now ↔ game.commitDeadline < now :=
  decide_eq_true_iff

namespace Settlement

variable {now later deadline : Instant} {store next : GameStore} {game : Game} {s : Settlement}

inductive Waits (now : Instant) (store : GameStore) (game : Game) : Prop
  | opponent (few : store.commitCount game.id < maxPlayers) (within : now ≤ game.commitDeadline)
  | firstReveal (full : maxPlayers ≤ store.commitCount game.id) (unset : game.revealDeadline = none)
  | secondReveal {deadline : Instant} (full : maxPlayers ≤ store.commitCount game.id)
      (opened : game.revealDeadline = some deadline) (few : store.revealCount game.id < maxPlayers)
      (early : now < deadline)

lemma Waits.of_le (waits : Waits later store game) (order : now ≤ later) : Waits now store game := by
  cases waits with
  | opponent few within => exact .opponent few (Instant.le_trans order within)
  | firstReveal full unset => exact .firstReveal full unset
  | secondReveal full opened few early => exact .secondReveal full opened few (Instant.lt_of_le_of_lt order early)

lemma waits_iff_of_few (few : store.commitCount game.id < maxPlayers) :
    Waits now store game ↔ now ≤ game.commitDeadline := by
  constructor
  · intro waits
    cases waits with
    | opponent _ within => exact within
    | firstReveal full _ => omega
    | secondReveal full _ _ _ => omega
  · exact .opponent few

lemma waits_iff_of_opened (full : maxPlayers ≤ store.commitCount game.id)
    (opened : game.revealDeadline = some deadline) :
    Waits now store game ↔ store.revealCount game.id < maxPlayers ∧ now < deadline := by
  constructor
  · intro waits
    cases waits with
    | opponent few _ => omega
    | firstReveal _ unset => cases unset.symm.trans opened
    | secondReveal _ opened' few early =>
      obtain rfl := Option.some.inj (opened.symm.trans opened')
      exact ⟨few, early⟩
  · rintro ⟨few, early⟩
    exact .secondReveal full opened few early

def ending (store : GameStore) (game : Game) : Except GameError Settlement :=
  if store.commitCount game.id < maxPlayers then .ok (unjoined game (store.commitsOf game.id))
  else match game.prize? with
    | none => .error (.overflow s!"prize of game {game.id.toNat}")
    | some prize => .ok (joined game prize (store.commitsOf game.id) (store.revealsOf game.id))

lemma plan_eq (now : Instant) (store : GameStore) (game : Game) :
    plan now store game =
      if store.commitCount game.id < maxPlayers then
        .ok (if game.commitClosed now then some (unjoined game (store.commitsOf game.id)) else none)
      else match game.revealDeadline with
        | none => .ok none
        | some deadline =>
          if store.revealCount game.id < maxPlayers ∧ now < deadline then .ok none
          else match game.prize? with
            | none => .error (.overflow s!"prize of game {game.id.toNat}")
            | some prize => .ok (some (joined game prize (store.commitsOf game.id) (store.revealsOf game.id))) := rfl

lemma plan_of_waits (waits : Waits now store game) : plan now store game = .ok none := by
  cases waits with
  | opponent few within => rw [plan_eq, if_pos few, if_neg (Game.commitClosed_iff.not.mpr within)]
  | firstReveal full unset => rw [plan_eq, if_neg (Nat.not_lt.mpr full), unset]
  | secondReveal full opened few early =>
    simp only [plan_eq, if_neg (Nat.not_lt.mpr full), opened, if_pos (And.intro few early)]

lemma plan_of_not_waits (due : ¬ Waits now store game) : plan now store game = (ending store game).map some := by
  by_cases few : store.commitCount game.id < maxPlayers
  · have late : game.commitDeadline < now := by
      by_contra within
      exact due (.opponent few within)
    rw [plan_eq, if_pos few, if_pos (Game.commitClosed_iff.mpr late), ending, if_pos few]
    rfl
  · have full := Nat.not_lt.mp few
    cases opened : game.revealDeadline with
    | none => exact absurd (.firstReveal full opened) due
    | some deadline =>
      have hover : ¬ (store.revealCount game.id < maxPlayers ∧ now < deadline) :=
        fun h => due (.secondReveal full opened h.1 h.2)
      simp only [plan_eq, ending, if_neg few, opened, if_neg hover]
      cases game.prize? <;> rfl

lemma plan_eq_none_iff : plan now store game = .ok none ↔ Waits now store game := by
  refine ⟨fun h => ?_, plan_of_waits⟩
  by_contra due
  rw [plan_of_not_waits due] at h
  cases hending : ending store game <;> rw [hending] at h <;> cases h

lemma plan_later (order : now ≤ later) (h : plan now store game ≠ .ok none) :
    plan later store game = plan now store game := by
  have due : ¬ Waits now store game := fun waits => h (plan_of_waits waits)
  rw [plan_of_not_waits due, plan_of_not_waits fun waits => due (waits.of_le order)]

variable {games : List Game} {planned all rest : List Settlement}

lemma Planned.sublist_of_le (order : now ≤ later) (first : Planned now store games planned)
    (second : Planned later store games all) : planned.Sublist all := by
  induction first generalizing all with
  | nil => exact List.nil_sublist all
  | skip _ _ ih =>
    cases second with
    | skip _ second => exact ih second
    | due _ second => exact (ih second).cons _
  | due closes _ ih =>
    have hlater := plan_of_le closes order
    cases second with
    | skip waits _ => cases hlater.symm.trans waits
    | due closes' second =>
      cases hlater.symm.trans closes'
      exact (ih second).cons_cons _

lemma Planned.ne_error (h : Planned now store games planned) : ∀ game ∈ games, ∀ e, plan now store game ≠ .error e := by
  induction h with
  | nil => simp
  | skip waits _ ih => exact List.forall_mem_cons.mpr ⟨fun e he => (nomatch waits.symm.trans he), ih⟩
  | due closes _ ih => exact List.forall_mem_cons.mpr ⟨fun e he => (nomatch closes.symm.trans he), ih⟩

lemma sweepSteps_error {keep : Game → Bool} (hkeep : ∀ g ∈ games, keep g → plan later next g = plan later store g)
    (hdrop : ∀ g ∈ games, ¬ keep g → ∀ e, plan later store g ≠ .error e) {done : GameStore × List Settlement}
    (done' : GameStore × List Settlement) {e : GameError} (h : games.foldlM (sweepStep later store) done = .error e) :
    (games.filter keep).foldlM (sweepStep later next) done' = .error e := by
  induction games generalizing done done' with
  | nil => cases h
  | cons g rest ih =>
    obtain ⟨hkeep₁, hkeep⟩ := List.forall_mem_cons.mp hkeep
    obtain ⟨hdrop₁, hdrop⟩ := List.forall_mem_cons.mp hdrop
    rw [List.foldlM_cons, sweepStep_eq] at h
    by_cases hg : keep g
    · rw [List.filter_cons_of_pos hg, List.foldlM_cons, sweepStep_eq, hkeep₁ hg]
      cases hplan : plan later store g with
      | error e' =>
        rw [hplan] at h
        exact h
      | ok due =>
        rw [hplan] at h
        cases due <;> exact ih hkeep hdrop _ h
    · rw [List.filter_cons_of_neg hg]
      cases hplan : plan later store g with
      | error e' => exact absurd hplan (hdrop₁ hg e')
      | ok due =>
        rw [hplan] at h
        cases due <;> exact ih hkeep hdrop _ h

end Settlement

lemma GameStore.OwnIds.values_without {store : GameStore} (ownIds : store.OwnIds) (gone : List GameId) :
    (store.without gone).games.values = store.games.values.filter fun g => g.id ∉ gone := by
  rw [SortedMap.values, SortedMap.values, List.filter_map]
  apply congrArg (List.map Prod.snd)
  apply List.filter_congr
  rintro ⟨id, game⟩ he
  have hid := ownIds id game (SortedMap.get?_eq_some_iff.mpr he)
  simp only [Function.comp_apply, hid]

namespace Settlement

variable {now later : Instant} {store next : GameStore} {planned : List Settlement}

lemma sweep_twice (ownIds : store.OwnIds) (order : now ≤ later) (first : sweep now store = .ok (next, planned)) :
    (∃ final all rest, sweep later store = .ok (final, all) ∧ sweep later next = .ok (final, rest) ∧
      planned.Sublist all ∧ all.Perm (planned ++ rest)) ∨
      ∃ e, sweep later store = .error e ∧ sweep later next = .error e := by
  obtain ⟨hplanned, rfl⟩ := sweep_eq_ok first
  have hkept : ∀ g ∈ store.games.values, decide (g.id ∉ planned.map (·.game)) = true →
      plan later (store.without (planned.map (·.game))) g = plan later store g :=
    fun g _ hg => plan_without (of_decide_eq_true hg)
  cases second : sweep later store with
  | error e =>
    refine Or.inr ⟨e, rfl, ?_⟩
    rw [sweep, ownIds.values_without]
    refine sweepSteps_error hkept (fun g hg hgone e failed => ?_) _ second
    -- A game that is gone was settled first, and would be settled in the same way later.
    obtain ⟨s, hs, hid⟩ := List.mem_map.mp (not_not.mp fun h => hgone (decide_eq_true h))
    obtain ⟨game, hgame, hplan⟩ := ((mem_sweep_iff ownIds first).mp hs).of_le order
    rw [hid, GameStore.game?_of_mem_values ownIds hg] at hgame
    obtain rfl := Option.some.inj hgame
    cases failed.symm.trans hplan
  | ok result =>
    obtain ⟨final, all⟩ := result
    obtain ⟨hall, rfl⟩ := sweep_eq_ok second
    have hok : ∀ g ∈ (store.without (planned.map (·.game))).games.values, ∀ e,
        plan later (store.without (planned.map (·.game))) g ≠ .error e := by
      intro g hg e
      rw [ownIds.values_without] at hg
      obtain ⟨hg, hleft⟩ := List.mem_filter.mp hg
      rw [hkept g hg hleft]
      exact hall.ne_error g hg e
    obtain ⟨⟨final, rest⟩, third⟩ := sweepSteps_ok hok (store.without (planned.map (·.game)), [])
    obtain ⟨_, rfl⟩ := sweep_eq_ok third
    have ownIds' := ownIds.without (planned.map (·.game))
    have hperm : all.Perm (planned ++ rest) := planned_perm order (fun s => (mem_sweep_iff ownIds first).mp)
      (sweep_nodup ownIds first) (fun s => mem_sweep_iff ownIds second) (sweep_nodup ownIds second)
      (fun s => mem_sweep_iff ownIds' third) (sweep_nodup ownIds' third)
    have hfinal : (store.without (planned.map (·.game))).without (rest.map (·.game)) =
        store.without (all.map (·.game)) := by
      rw [GameStore.without_without, ← List.map_append]
      exact GameStore.without_congr fun id => ((hperm.map (·.game)).mem_iff).symm
    rw [hfinal] at third
    exact Or.inl ⟨_, all, rest, rfl, third, hplanned.sublist_of_le order hall, hperm⟩

/-- Time decides when a game is settled and never how. A game that is due stays due with the same settlement, and one
that cannot be settled fails in the same way later. So a later sweep plans all that an earlier one has planned, in the
same order, and after the earlier one it leads to the same records, with the same settlements in all. -/
theorem time_only_gates :
    (∀ {store : GameStore} {game : Game} {now later : Instant}, now ≤ later →
      (∀ s, plan now store game = .ok (some s) → plan later store game = .ok (some s)) ∧
      ∀ e, plan now store game = .error e → plan later store game = .error e) ∧
    ∀ {store next : GameStore} {now later : Instant} {planned : List Settlement}, store.Built → now ≤ later →
      sweep now store = .ok (next, planned) →
        (∃ final all rest, sweep later store = .ok (final, all) ∧ sweep later next = .ok (final, rest) ∧
          planned.Sublist all ∧ all.Perm (planned ++ rest)) ∨
        ∃ e, sweep later store = .error e ∧ sweep later next = .error e := by
  refine ⟨fun order => ⟨fun s due => plan_of_le due order, fun e failed => ?_⟩, ?_⟩
  · rw [← failed]
    refine plan_later order fun waits => ?_
    cases failed.symm.trans waits
  · intro store next now later planned built order first
    exact sweep_twice built.ownIds order first

end Settlement

namespace Sample

def crowded : GameStore :=
  (loaded.store.setGame ⟨1, ⟨3⟩, ⟨30, 0, by decide, by decide⟩, none⟩).setCommit 1 ⟨[3]⟩ ⟨⟨"z"⟩, .epoch⟩

def overdue : Instant := ⟨31, 0, by decide, by decide⟩

def refund : Settlement := ⟨1, .refunded ⟨[3]⟩, [⟨⟨[3]⟩, ⟨3⟩⟩]⟩

lemma crowded_built : crowded.Built :=
  (GameStore.Built.game (GameStore.built_iff.mpr fun _ _ => loaded_reachable.wellFormed.ownId) _).commit _ _ _

lemma sweep_crowded : Settlement.sweep .epoch crowded = .ok (crowded.without [0], [settlement]) := by decide +kernel

end Sample

theorem Settlement.time_only_gates_crowded :
    plan Sample.overdue Sample.crowded ⟨0, ⟨5⟩, .epoch, some .epoch⟩ = .ok (some Sample.settlement) ∧
    sweep Sample.overdue (Sample.crowded.without [0]) = .ok (Sample.crowded.without [0, 1], [Sample.refund]) ∧
    ∃ all, sweep Sample.overdue Sample.crowded = .ok (Sample.crowded.without [0, 1], all) ∧
      all.Perm [Sample.settlement, Sample.refund] := by
  have order : Instant.epoch ≤ Sample.overdue := by decide
  have due : plan .epoch Sample.crowded ⟨0, ⟨5⟩, .epoch, some .epoch⟩ = .ok (some Sample.settlement) := by
    decide +kernel
  have second : sweep Sample.overdue (Sample.crowded.without [0]) =
      .ok (Sample.crowded.without [0, 1], [Sample.refund]) := by
    decide +kernel
  refine ⟨(time_only_gates.1 order).1 _ due, second, ?_⟩
  rcases time_only_gates.2 Sample.crowded_built order Sample.sweep_crowded with
    ⟨final, all, rest, hall, hrest, _, hperm⟩ | ⟨e, _, failed⟩
  · cases second.symm.trans hrest
    exact ⟨all, hall, hperm⟩
  · cases second.symm.trans failed

end Roshambo
