import Roshambo.Text.Blank
import Roshambo.Text.Decimal
import Roshambo.Time.Instant

/-! Numbers may be shorter than they are written, blanks may stand before numbers, separators and the offset, and the
offset may be any below a day; the local and the universal instant must both be in range. -/

namespace Roshambo.Instant

open Text (dropBlanks isBlank)

def readNumber? (width : Nat) (cs : List Char) : Option (Nat × List Char) :=
  let cs := dropBlanks cs
  let digits := (cs.take width).takeWhile Char.isDigit
  (Decimal.read? digits).map fun n => (n, cs.drop digits.length)

def readYear? (cs : List Char) : Option (Int × List Char) :=
  let signed (sign : Int) (rest : List Char) : Option (Int × List Char) :=
    let digits := rest.takeWhile Char.isDigit
    (Decimal.read? digits).map fun n => (sign * n, rest.drop digits.length)
  match dropBlanks cs with
  | '-' :: rest => signed (-1) rest
  | '+' :: rest => signed 1 rest
  | cs => (readNumber? 4 cs).map fun (n, rest) => ((n : Int), rest)

def readMark? (mark : Char) (cs : List Char) : Option (List Char) :=
  match dropBlanks cs with
  | c :: rest => if c = mark then some rest else none
  | [] => none

def readDate? (cs : List Char) : Option (Calendar.Date × List Char) := do
  let (year, cs) ← readYear? cs
  let cs ← readMark? '-' cs
  let (month, cs) ← readNumber? 2 cs
  let cs ← readMark? '-' cs
  let (day, cs) ← readNumber? 2 cs
  let date : Calendar.Date := ⟨year, month, day⟩
  if date.IsValid then return (date, cs) else none

def readSeam? : List Char → Option (List Char)
  | 'T' :: rest | 't' :: rest | ' ' :: rest => some rest
  | _ => none

def readFraction? : List Char → Option (Nat × List Char)
  | '.' :: rest => do
    let digits := rest.takeWhile Char.isDigit
    if digits = [] then none
    else return (Decimal.value ((digits ++ List.replicate 9 '0').take 9), rest.drop digits.length)
  | cs => some (0, cs)

/-- The second of the day and the nanoseconds; the sixtieth second belongs to the one before it. -/
def readClock? (cs : List Char) : Option (Nat × Nat × List Char) := do
  let (hour, cs) ← readNumber? 2 cs
  let cs ← readMark? ':' cs
  let (minute, cs) ← readNumber? 2 cs
  let cs ← readMark? ':' cs
  let (second, cs) ← readNumber? 2 cs
  let (nanos, cs) ← readFraction? cs
  if hour < 24 ∧ minute < 60 ∧ second ≤ 60 then
    let start := 3600 * hour + 60 * minute
    if second = 60 then return (start + 59, nanos + nanosPerSecond, cs)
    else return (start + second, nanos, cs)
  else none

def readHoursMinutes? : List Char → Option (Nat × List Char)
  | h1 :: h2 :: cs => do
    let hours ← Decimal.read? [h1, h2]
    match cs.dropWhile fun c => c = ':' ∨ isBlank c with
    | m1 :: m2 :: cs =>
      let minutes ← Decimal.read? [m1, m2]
      if minutes < 60 ∧ hours < 24 then return (3600 * hours + 60 * minutes, cs) else none
    | _ => none
  | _ => none

def readOffset? (cs : List Char) : Option (Int × List Char) :=
  match dropBlanks cs with
  | 'Z' :: rest | 'z' :: rest => some (0, rest)
  | '+' :: rest => (readHoursMinutes? rest).map fun (n, cs) => ((n : Int), cs)
  | '-' :: rest | '\u2212' :: rest => (readHoursMinutes? rest).map fun (n, cs) => (-(n : Int), cs)
  | u :: t :: c :: rest => if [u, t, c].map Char.toLower = ['u', 't', 'c'] then some (0, rest) else none
  | _ => none

def ofChars? (cs : List Char) : Option Instant := do
  let (date, cs) ← readDate? cs
  let cs ← readSeam? cs
  let (second, nanos, cs) ← readClock? cs
  let (offset, cs) ← readOffset? cs
  let here ← make? (secondsPerDay * date.toDays + second) nanos
  if dropBlanks cs = [] then make? (here.seconds - offset) nanos else none

def ofText? (text : String) : Option Instant := ofChars? text.toList

end Roshambo.Instant
