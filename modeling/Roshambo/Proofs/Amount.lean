import Mathlib.Algebra.GroupWithZero.Nat
import Mathlib.Tactic.Common
import Roshambo.Amount

namespace Roshambo.Amount

variable {a b c : Amount}

lemma toNat_lt (a : Amount) : a.toNat < UInt64.size := a.sats.toNat_lt

lemma toNat_inj : a.toNat = b.toNat ↔ a = b := by
  cases a
  cases b
  simp [toNat, UInt64.toNat_inj]

lemma le_iff : a ≤ b ↔ a.toNat ≤ b.toNat := UInt64.le_iff_toNat_le

@[simp] lemma toNat_zero : zero.toNat = 0 := rfl

lemma pos_iff : 0 < a.toNat ↔ a ≠ zero := by
  rw [Nat.pos_iff_ne_zero, ← toNat_zero, Ne, toNat_inj]

lemma ofNat?_eq_some_iff {n : Nat} : ofNat? n = some a ↔ a.toNat = n := by
  constructor
  · exact toNat_ofNat?
  · rintro rfl
    rw [ofNat?, if_pos a.toNat_lt]
    simp [toNat]

lemma ofNat?_eq_none_iff {n : Nat} : ofNat? n = none ↔ UInt64.size ≤ n := by
  simp [ofNat?]

lemma add?_eq_some_iff : a.add? b = some c ↔ c.toNat = a.toNat + b.toNat := ofNat?_eq_some_iff

lemma add?_eq_none_iff : a.add? b = none ↔ UInt64.size ≤ a.toNat + b.toNat := ofNat?_eq_none_iff

lemma times?_eq_some_iff {n : Nat} : a.times? n = some c ↔ c.toNat = a.toNat * n := ofNat?_eq_some_iff

lemma times?_eq_none_iff {n : Nat} : a.times? n = none ↔ UInt64.size ≤ a.toNat * n := ofNat?_eq_none_iff

lemma sub?_eq_none_iff : a.sub? b = none ↔ a.toNat < b.toNat := by
  simp [sub?, le_iff]

lemma sub?_eq_some_iff : a.sub? b = some c ↔ a.toNat = c.toNat + b.toNat := by
  constructor
  · intro h
    have hsub := toNat_sub? h
    omega
  · intro h
    cases hs : a.sub? b with
    | none =>
      rw [sub?_eq_none_iff] at hs
      omega
    | some d =>
      have hsub := toNat_sub? hs
      have hd : d.toNat = c.toNat := by omega
      rw [toNat_inj.mp hd]

lemma foldlM_add?_eq_some_iff {amounts : List Amount} :
    amounts.foldlM add? a = some c ↔ c.toNat = a.toNat + (amounts.map toNat).sum := by
  induction amounts generalizing a with
  | nil => simp [← toNat_inj, eq_comm]
  | cons b rest ih =>
    rw [List.foldlM_cons, List.map_cons, List.sum_cons]
    cases h : a.add? b with
    | none =>
      rw [add?_eq_none_iff] at h
      have hc := c.toNat_lt
      simp only [Option.bind_eq_bind, Option.bind_none, reduceCtorEq, false_iff]
      omega
    | some d =>
      rw [add?_eq_some_iff] at h
      simp only [Option.bind_eq_bind, Option.bind_some, ih]
      omega

lemma sum?_eq_some_iff {amounts : List Amount} : sum? amounts = some c ↔ c.toNat = (amounts.map toNat).sum := by
  rw [sum?, foldlM_add?_eq_some_iff, toNat_zero, Nat.zero_add]

lemma exists_toNat {n : Nat} (h : n < UInt64.size) : ∃ a : Amount, a.toNat = n :=
  ⟨⟨UInt64.ofNat n⟩, UInt64.toNat_ofNat_of_lt' h⟩

lemma sum?_of_lt {amounts : List Amount} (h : (amounts.map toNat).sum < UInt64.size) :
    ∃ total, sum? amounts = some total ∧ total.toNat = (amounts.map toNat).sum := by
  obtain ⟨total, htotal⟩ := exists_toNat h
  exact ⟨total, sum?_eq_some_iff.mpr htotal, htotal⟩

end Roshambo.Amount
