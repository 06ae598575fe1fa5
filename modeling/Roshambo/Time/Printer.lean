import Roshambo.Text.Decimal
import Roshambo.Time.Instant

/-! A year from 0 to 9999 has four digits and any other a sign and at least four; a fraction has three, six or nine
digits, the fewest that are exact, and is left out when it is zero. -/

namespace Roshambo.Instant

open Decimal

def yearText (year : Int) : List Char :=
  if 0 ≤ year ∧ year ≤ 9999 then padded 4 year.toNat
  else (if year < 0 then '-' else '+') :: padded 4 year.natAbs

def dateText (t : Instant) : List Char :=
  yearText t.date.year ++ '-' :: padded 2 t.date.month ++ '-' :: padded 2 t.date.day

def clockText (t : Instant) : List Char :=
  padded 2 t.hour ++ ':' :: padded 2 t.minute ++ ':' :: padded 2 t.second

def fractionText (nanos : Nat) : List Char :=
  if nanos = 0 then []
  else if nanos % 1000000 = 0 then '.' :: padded 3 (nanos / 1000000)
  else if nanos % 1000 = 0 then '.' :: padded 6 (nanos / 1000)
  else '.' :: padded 9 nanos

/-- The form in data, such as `1970-01-01T00:01:40.500Z`. -/
def timestamp (t : Instant) : String :=
  String.ofList (t.dateText ++ 'T' :: t.clockText ++ fractionText t.subsecond ++ ['Z'])

def spoken (t : Instant) : String :=
  String.ofList (t.dateText ++ ' ' :: t.clockText ++ fractionText t.subsecond) ++ " UTC"

def tabular (t : Instant) : String := String.ofList (t.dateText ++ ' ' :: t.clockText)

end Roshambo.Instant
