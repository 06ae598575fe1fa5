namespace Roshambo.Decimal

def digits (n : Nat) : List Char := Nat.toDigits 10 n

def padded (width n : Nat) : List Char :=
  List.replicate (width - (digits n).length) '0' ++ digits n

def digitValue (c : Char) : Nat := c.toNat - '0'.toNat

def value (cs : List Char) : Nat := cs.foldl (fun n c => 10 * n + digitValue c) 0

def read? (cs : List Char) : Option Nat :=
  if cs ≠ [] ∧ cs.all Char.isDigit then some (value cs) else none

def readWord? (cs : List Char) : Option UInt64 :=
  let unsigned := match cs with
    | '+' :: rest => rest
    | _ => cs
  match read? unsigned with
  | some n => if n < UInt64.size then some (UInt64.ofNat n) else none
  | none => none

def integerBound : Nat := 9223372036854775808

def readInteger? : List Char → Option Int
  | '-' :: rest => (read? rest).bind fun n => if n ≤ integerBound then some (-(n : Int)) else none
  | '+' :: rest => (read? rest).bind fun n => if n < integerBound then some (n : Int) else none
  | cs => (read? cs).bind fun n => if n < integerBound then some (n : Int) else none

def integer (n : Int) : List Char :=
  if n < 0 then '-' :: digits n.natAbs else digits n.natAbs

end Roshambo.Decimal
