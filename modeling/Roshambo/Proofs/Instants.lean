import Mathlib.Tactic.Common
import Roshambo.Time.Instant

namespace Roshambo.Instant

variable {s t u : Instant}

lemma lt_iff : s < t ↔ s.seconds < t.seconds ∨ (s.seconds = t.seconds ∧ s.nanos < t.nanos) := Iff.rfl

lemma le_iff : s ≤ t ↔ ¬ t < s := Iff.rfl

lemma le_refl (t : Instant) : t ≤ t := by
  rw [le_iff, lt_iff]
  omega

lemma le_of_lt (h : s < t) : s ≤ t := by
  rw [lt_iff] at h
  rw [le_iff, lt_iff]
  omega

lemma lt_of_le_of_lt (h : s ≤ t) (h' : t < u) : s < u := by
  rw [le_iff, lt_iff] at h
  rw [lt_iff] at h' ⊢
  omega

lemma lt_of_lt_of_le (h : s < t) (h' : t ≤ u) : s < u := by
  rw [le_iff, lt_iff] at h'
  rw [lt_iff] at h ⊢
  omega

lemma le_trans (h : s ≤ t) (h' : t ≤ u) : s ≤ u := fun hlt => h (Instant.lt_of_le_of_lt h' hlt)

lemma le_antisymm (h : s ≤ t) (h' : t ≤ s) : s = t := by
  obtain ⟨_, _, _, _⟩ := s
  obtain ⟨_, _, _, _⟩ := t
  simp only [le_iff, lt_iff] at h h'
  simp only [mk.injEq]
  omega

instance : Trans (α := Instant) (· ≤ ·) (· ≤ ·) (· ≤ ·) := ⟨le_trans⟩

lemma make?_eq_some_iff {seconds : Int} {nanos : Nat} :
    make? seconds nanos = some t ↔ t.seconds = seconds ∧ t.nanos = nanos := by
  simp only [make?, Option.dite_none_right_eq_some, Option.some.injEq]
  constructor
  · rintro ⟨_, _, rfl⟩
    exact ⟨rfl, rfl⟩
  · rintro ⟨rfl, rfl⟩
    exact ⟨t.inRange, t.nanosFit, rfl⟩

lemma add?_eq_some_iff {seconds : Nat} (hpos : seconds ≠ 0) :
    s.add? seconds = some t ↔ t.seconds = s.seconds + seconds ∧ t.nanos = s.nanos % nanosPerSecond := by
  rw [add?, if_neg hpos, make?_eq_some_iff]

lemma add?_eq_none_iff {seconds : Nat} (hpos : seconds ≠ 0) :
    s.add? seconds = none ↔ ∀ t : Instant, t.seconds < s.seconds + seconds := by
  have hnanos : s.nanos % nanosPerSecond < nanosPerSecond := Nat.mod_lt _ (by decide)
  constructor
  · intro hnone t
    by_contra hle
    have hrange : -8334601228800 ≤ s.seconds + seconds ∧ s.seconds + seconds ≤ 8210266876799 := by
      have hs := s.inRange.1
      have ht := t.inRange.2
      omega
    have hsum : s.add? seconds = some ⟨s.seconds + seconds, s.nanos % nanosPerSecond, hrange, Or.inl hnanos⟩ :=
      (add?_eq_some_iff hpos).mpr ⟨rfl, rfl⟩
    cases hnone.symm.trans hsum
  · intro hpast
    by_contra hsome
    obtain ⟨t, ht⟩ := Option.ne_none_iff_exists'.mp hsome
    have hseconds := ((add?_eq_some_iff hpos).mp ht).1
    exact Int.lt_irrefl _ (hseconds ▸ hpast t)

lemma lt_of_add? {seconds : Nat} (h : s.add? seconds = some t) (hpos : seconds ≠ 0) : s < t := by
  have hseconds := ((add?_eq_some_iff hpos).mp h).1
  exact Or.inl (by omega)

end Roshambo.Instant
