import Roshambo.Json.Double
import Roshambo.Json.Value

/-! Digits of a literal are taken in from the left as long as they fit a word; after that, whole digits only raise the
exponent and digits of the fraction are dropped. -/

namespace Roshambo.Json

inductive Numeral
  | word (n : Nat)
  | negative (n : Nat)
  | double (isNegative : Bool) (magnitude : Double)
  deriving DecidableEq

namespace Numeral

/-- Takes in digits while they fit a word; the second result is how many did not. -/
def takeIn (n : Nat) : List Char → Nat × Nat
  | [] => (n, 0)
  | c :: cs =>
    let next := 10 * n + Decimal.digitValue c
    if next < UInt64.size then takeIn next cs else (n, cs.length + 1)

def isMark (c : Char) : Bool := c = 'e' || c = 'E'

structure Parts where
  whole : List Char
  fraction : List Char
  exponentIsNegative : Bool
  exponent : List Char

def Parts.of (literal : List Char) : Parts :=
  let mantissa := literal.takeWhile (¬ isMark ·)
  let exponent := (literal.dropWhile (¬ isMark ·)).drop 1
  ⟨mantissa.takeWhile Char.isDigit, (mantissa.dropWhile Char.isDigit).drop 1, exponent.head? = some '-',
    exponent.filter Char.isDigit⟩

def maxExponent : Nat := 2147483647

def magnitude? (p : Parts) : Option Double :=
  let (whole, raised) := takeIn 0 p.whole
  let (n, dropped) := takeIn whole p.fraction
  let places : Int := raised - (p.fraction.length - dropped : Nat)
  let exponent := Decimal.value p.exponent
  if maxExponent < exponent then if n ≠ 0 ∧ ¬ p.exponentIsNegative then none else some .zero
  else (Double.ofNat n).scaled? (if p.exponentIsNegative then places - exponent else places + exponent)

def unsigned? (literal : List Char) : Option Numeral :=
  match literal.all Char.isDigit, takeIn 0 literal with
  | true, (n, 0) => some (word n)
  | _, _ => (magnitude? (.of literal)).map (double false)

def negated : Numeral → Numeral
  | word n => if 0 < n ∧ 2 * n ≤ UInt64.size then negative n else double true (.ofNat n)
  | negative n => word n
  | double isNegative magnitude => double (!isNegative) magnitude

def read? (literal : String) : Option Numeral :=
  match literal.toList with
  | '-' :: cs => (unsigned? cs).map negated
  | cs => unsigned? cs

def chars : Numeral → List Char
  | word n => Decimal.digits n
  | negative n => '-' :: Decimal.digits n
  | double isNegative magnitude => if isNegative then '-' :: magnitude.chars else magnitude.chars

end Numeral

def isFinite (literal : String) : Bool := (Numeral.read? literal).isSome

def canonical (literal : String) : String :=
  match Numeral.read? literal with
  | some n => String.ofList n.chars
  | none => literal

end Roshambo.Json
