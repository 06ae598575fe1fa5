import Roshambo.Text.Decimal

/-! Numbers of 53 binary digits, without a sign. Sums are never needed: a number is read by one rounded product or
quotient after another, and written with the fewest decimal digits that are nearest to it alone. -/

namespace Roshambo.Json

/-- A multiple of the least positive number, `2 ^ -1074`. -/
structure Double where
  units : Nat
  deriving DecidableEq

namespace Double

def unit : Nat := Nat.pow 2 1074

def bound : Nat := Nat.pow 2 2098

def zero : Double := ⟨0⟩

def isFinite (d : Double) : Bool := d.units < bound

def roundedQuotient (n d : Nat) : Nat :=
  let q := n / d
  let r := n % d
  if 2 * r < d ∨ (2 * r = d ∧ q % 2 = 0) then q else q + 1

def spacing (units : Nat) : Nat := Nat.pow 2 (units.log2 - 52)

def nearest (n d : Nat) : Double :=
  let s := spacing (n / d)
  ⟨roundedQuotient n (d * s) * s⟩

def ofNat (n : Nat) : Double := nearest (n * unit) 1

def multipliedBy (a b : Double) : Double := nearest (a.units * b.units) unit

def dividedBy (a b : Double) : Double := nearest (a.units * unit) b.units

def tenTo (n : Nat) : Double := ofNat (Nat.pow 10 n)

def ofDecimal (n : Nat) (e : Int) : Double :=
  nearest (n * Nat.pow 10 e.toNat * unit) (Nat.pow 10 (-e).toNat)

def maxPower : Nat := 308

/-- Multiplied by a power of ten, or divided by it in steps that the table allows; `none` if that is infinite. -/
def scaled? (d : Double) (e : Int) : Option Double :=
  if e.natAbs ≤ maxPower then
    if 0 ≤ e then
      let product := d.multipliedBy (tenTo e.toNat)
      if product.isFinite then some product else none
    else some (d.dividedBy (tenTo (-e).toNat))
  else if d = zero then some zero
  else if 0 ≤ e then none
  else scaled? (d.dividedBy (tenTo maxPower)) (e + maxPower)
termination_by e.natAbs
decreasing_by simp only [maxPower] at *; omega

/-- The place of the first decimal digit: 0 for the ones. -/
def firstPlace (d : Double) : Int :=
  let shift := 341
  ((Decimal.digits (d.units * Nat.pow 10 shift / unit)).length : Int) - 1 - shift

/-- The nearer of the two neighbours on the grid of the multiples of `10 ^ e` that read back. -/
def onGrid? (d : Double) (e : Int) : Option Nat :=
  let n := d.units * Nat.pow 10 (-e).toNat
  let whole := unit * Nat.pow 10 e.toNat
  let near := roundedQuotient n whole
  let far := if near = n / whole then near + 1 else near - 1
  if ofDecimal near e = d then some near else if ofDecimal far e = d then some far else none

/-- The fewest digits that read back, as an integer, and the place of the last one. -/
def shortest (d : Double) : Nat × Int :=
  let grids := (List.range 17).map fun (n : Nat) => d.firstPlace - n
  (grids.findSome? fun e => (d.onGrid? e).map (·, e)).getD (d.units, -1074)

def trimmed : Nat → Nat → Int → Nat × Int
  | 0, n, e => (n, e)
  | fuel + 1, n, e => if n % 10 = 0 ∧ n ≠ 0 then trimmed fuel (n / 10) (e + 1) else (n, e)

def zeros (n : Nat) : List Char := List.replicate n '0'

def chars (d : Double) : List Char :=
  let (n, e) := trimmed 17 d.shortest.1 d.shortest.2
  let digits := Decimal.digits n
  let point := digits.length + e
  if d = zero then ['0', '.', '0']
  else if 0 ≤ e ∧ point ≤ 16 then digits ++ zeros e.toNat ++ ['.', '0']
  else if 0 < point ∧ point ≤ 16 then digits.take point.toNat ++ '.' :: digits.drop point.toNat
  else if -5 < point ∧ point ≤ 0 then '0' :: '.' :: zeros (-point).toNat ++ digits
  else
    let fraction := if digits.length = 1 then [] else '.' :: digits.drop 1
    digits.take 1 ++ fraction ++ 'e' :: Decimal.integer (point - 1)

end Double

end Roshambo.Json
