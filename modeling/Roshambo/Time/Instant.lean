import Roshambo.Time.Calendar

/-! Instants from the start of the year -262143 to the end of the year 262142. A leap second is held as the second
before it with a billion nanoseconds or more. -/

namespace Roshambo

def secondsPerDay : Int := 86400

def nanosPerSecond : Nat := 1000000000

/-- Seconds are counted from 1970-01-01T00:00:00. -/
structure Instant where
  seconds : Int
  nanos : Nat
  inRange : -8334601228800 ≤ seconds ∧ seconds ≤ 8210266876799
  nanosFit : nanos < nanosPerSecond ∨ (nanos < 2 * nanosPerSecond ∧ seconds % 60 = 59)
  deriving DecidableEq

namespace Instant

def epoch : Instant := ⟨0, 0, by decide, by decide⟩

def make? (seconds : Int) (nanos : Nat) : Option Instant :=
  if h : -8334601228800 ≤ seconds ∧ seconds ≤ 8210266876799 then
    if h' : nanos < nanosPerSecond ∨ (nanos < 2 * nanosPerSecond ∧ seconds % 60 = 59) then
      some ⟨seconds, nanos, h, h'⟩
    else none
  else none

instance : LT Instant := ⟨fun s t => s.seconds < t.seconds ∨ (s.seconds = t.seconds ∧ s.nanos < t.nanos)⟩

instance : LE Instant := ⟨fun s t => ¬ t < s⟩

instance (s t : Instant) : Decidable (s < t) := inferInstanceAs (Decidable (_ ∨ _))

instance (s t : Instant) : Decidable (s ≤ t) := inferInstanceAs (Decidable (¬ _))

/-- The instant a number of seconds later; a leap second is left by the first step. -/
def add? (t : Instant) (seconds : Nat) : Option Instant :=
  if seconds = 0 then some t
  else make? (t.seconds + seconds) (t.nanos % nanosPerSecond)

def millis (t : Instant) : Int := 1000 * t.seconds + (t.nanos / 1000000 : Nat)

def ofMillis? (millis : Int) : Option Instant :=
  make? (millis / 1000) ((millis % 1000).toNat * 1000000)

def date (t : Instant) : Calendar.Date := .ofDays (t.seconds / secondsPerDay)

def secondOfDay (t : Instant) : Nat := (t.seconds % secondsPerDay).toNat

def hour (t : Instant) : Nat := t.secondOfDay / 3600

def minute (t : Instant) : Nat := t.secondOfDay / 60 % 60

def second (t : Instant) : Nat := t.secondOfDay % 60 + t.nanos / nanosPerSecond

def subsecond (t : Instant) : Nat := t.nanos % nanosPerSecond

end Instant

end Roshambo
