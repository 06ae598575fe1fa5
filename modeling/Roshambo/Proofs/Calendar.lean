import Mathlib.Tactic.Common
import Roshambo.Time.Calendar

namespace Roshambo.Calendar

/-- A day of the cycle lies in a year of a span of four years of a century; only the last year of a span has a day
past its 365th, and only the last span of the cycle has it where a century ends. -/
lemma yearOfCycle_eq {day : Nat} (h : day < 146097) :
    ∃ century olympiad year rest, yearOfCycle day = (100 * century + 4 * olympiad + year, rest) ∧
      century ≤ 3 ∧ olympiad ≤ 24 ∧ year ≤ 3 ∧ rest ≤ 365 ∧
      day = 36524 * century + 1461 * olympiad + 365 * year + rest ∧
      (rest = 365 → year = 3 ∧ (olympiad = 24 → century = 3)) := by
  refine ⟨_, _, _, _, rfl, ?_⟩
  omega

lemma yearOfCycle_spec {day : Nat} (h : day < 146097) :
    ∃ year rest, yearOfCycle day = (year, rest) ∧ year < 400 ∧ rest ≤ 365 ∧
      day + year / 100 = 365 * year + year / 4 + rest ∧
      (rest = 365 → year % 4 = 3 ∧ (year % 100 = 99 → year = 399)) := by
  obtain ⟨century, olympiad, year, rest, heq, hcentury, holympiad, hyear, hrest, hday, hleap⟩ := yearOfCycle_eq h
  refine ⟨_, rest, heq, by omega, hrest, ?_, fun h365 => ?_⟩
  · have hfour : (100 * century + 4 * olympiad + year) / 4 = 25 * century + olympiad := by omega
    have hhundred : (100 * century + 4 * olympiad + year) / 100 = century := by omega
    omega
  · obtain ⟨hlast, hend⟩ := hleap h365
    omega

lemma month_spec {rest : Nat} (h : rest ≤ 365) :
    (5 * rest + 2) / 153 ≤ 11 ∧ daysBeforeMonth ((5 * rest + 2) / 153) ≤ rest ∧
      rest < daysBeforeMonth ((5 * rest + 2) / 153 + 1) := by
  simp only [daysBeforeMonth]
  omega

def ofMarch (month : Nat) : Nat := if month < 10 then month + 3 else month - 9

lemma monthLength_ofMarch (year : Int) : ∀ month < 11,
    monthLength year (ofMarch month) = daysBeforeMonth (month + 1) - daysBeforeMonth month
  | 0, _ | 1, _ | 2, _ | 3, _ | 4, _ | 5, _ | 6, _ | 7, _ | 8, _ | 9, _ | 10, _ => rfl
  | month + 11, h => absurd h (by omega)

lemma day_le_monthLength {rest : Nat} {year : Int} (hrest : rest ≤ 365) (hleap : rest = 365 → isLeap year = true) :
    rest - daysBeforeMonth ((5 * rest + 2) / 153) + 1 ≤ monthLength year (ofMarch ((5 * rest + 2) / 153)) := by
  obtain ⟨hle, hstart, hend⟩ := month_spec hrest
  generalize (5 * rest + 2) / 153 = month at *
  by_cases hfeb : month = 11
  · subst hfeb
    have hlength : monthLength year (ofMarch 11) = if isLeap year then 29 else 28 := rfl
    have hbefore : daysBeforeMonth 11 = 337 := rfl
    rw [hlength, hbefore]
    by_cases h365 : rest = 365
    · rw [if_pos (hleap h365)]
      omega
    · split <;> omega
  · rw [monthLength_ofMarch year month (by omega)]
    omega

lemma ofDays_eq (days : Int) :
    ∃ cycle : Int, ∃ year rest : Nat,
      days + epoch = 146097 * cycle + (365 * year + year / 4 - year / 100 + rest : Int) ∧
      year < 400 ∧ rest ≤ 365 ∧ (rest = 365 → year % 4 = 3 ∧ (year % 100 = 99 → year = 399)) ∧
      Date.ofDays days =
        ⟨if (5 * rest + 2) / 153 < 10 then 400 * cycle + year else 400 * cycle + year + 1,
          ofMarch ((5 * rest + 2) / 153), rest - daysBeforeMonth ((5 * rest + 2) / 153) + 1⟩ := by
  obtain ⟨year, rest, heq, hyear, hrest, hday, hleap⟩ :=
    yearOfCycle_spec (show ((days + epoch) % 146097).toNat < 146097 by omega)
  refine ⟨(days + epoch) / 146097, year, rest, by omega, hyear, hrest, hleap, ?_⟩
  simp only [Date.ofDays, heq, ofMarch]
  split <;> rfl

theorem toDays_ofDays (days : Int) : (Date.ofDays days).toDays = days := by
  obtain ⟨cycle, year, rest, hdays, hyear, hrest, _, heq⟩ := ofDays_eq days
  obtain ⟨hle, hstart, _⟩ := month_spec hrest
  rw [heq]
  generalize (5 * rest + 2) / 153 = month at *
  have hmonth : (ofMarch month + 9) % 12 = month := by
    unfold ofMarch
    split <;> omega
  simp only [Date.toDays, hmonth]
  have hmarch : (if ofMarch month ≤ 2 then (if month < 10 then 400 * cycle + year else 400 * cycle + year + 1) - 1
      else if month < 10 then 400 * cycle + year else 400 * cycle + year + 1) = 400 * cycle + (year : Int) := by
    unfold ofMarch
    split_ifs <;> omega
  rw [hmarch]
  omega

theorem isValid_ofDays (days : Int) : (Date.ofDays days).IsValid := by
  obtain ⟨cycle, year, rest, _, hyear, hrest, hleap, heq⟩ := ofDays_eq days
  obtain ⟨hle, _, _⟩ := month_spec hrest
  rw [heq]
  refine ⟨?_, ?_, Nat.le_add_left _ _, day_le_monthLength hrest fun h365 => ?_⟩
  · unfold ofMarch
    simp only
    split <;> omega
  · unfold ofMarch
    simp only
    split <;> omega
  · obtain ⟨hfour, hhundred⟩ := hleap h365
    subst h365
    simp only [isLeap, Bool.and_eq_true, Bool.or_eq_true, decide_eq_true_eq]
    rw [if_neg (by decide)]
    omega

end Roshambo.Calendar
