/-! The proleptic Gregorian calendar. Inside a count the year starts with March, so that a leap day is the last day of
its year. -/

namespace Roshambo.Calendar

structure Date where
  year : Int
  month : Nat
  day : Nat
  deriving DecidableEq

def isLeap (year : Int) : Bool := year % 4 = 0 && (year % 100 ≠ 0 || year % 400 = 0)

def monthLength (year : Int) (month : Nat) : Nat :=
  if month = 2 then (if isLeap year then 29 else 28)
  else if month = 4 ∨ month = 6 ∨ month = 9 ∨ month = 11 then 30
  else 31

def Date.IsValid (d : Date) : Prop :=
  1 ≤ d.month ∧ d.month ≤ 12 ∧ 1 ≤ d.day ∧ d.day ≤ monthLength d.year d.month

instance (d : Date) : Decidable d.IsValid := inferInstanceAs (Decidable (_ ∧ _ ∧ _ ∧ _))

/-- Days from 0000-03-01 to 1970-01-01. -/
def epoch : Int := 719468

def daysBeforeMonth (m : Nat) : Nat := (153 * m + 2) / 5

def Date.toDays (d : Date) : Int :=
  let year := if d.month ≤ 2 then d.year - 1 else d.year
  let month := (d.month + 9) % 12
  365 * year + year / 4 - year / 100 + year / 400 + (daysBeforeMonth month + d.day - 1 : Nat) - epoch

/-- A day of the cycle of 400 years, as a year of the cycle and a day of that year. -/
def yearOfCycle (day : Nat) : Nat × Nat :=
  let century := min (day / 36524) 3
  let day := day - 36524 * century
  let olympiad := day / 1461
  let day := day - 1461 * olympiad
  let year := min (day / 365) 3
  (100 * century + 4 * olympiad + year, day - 365 * year)

def Date.ofDays (days : Int) : Date :=
  let days := days + epoch
  let cycle := days / 146097
  let (year, day) := yearOfCycle (days % 146097).toNat
  let month := (5 * day + 2) / 153
  let year := 400 * cycle + year
  if month < 10 then ⟨year, month + 3, day - daysBeforeMonth month + 1⟩
  else ⟨year + 1, month - 9, day - daysBeforeMonth month + 1⟩

end Roshambo.Calendar
