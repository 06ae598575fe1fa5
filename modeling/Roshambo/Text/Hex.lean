import Roshambo.Text.Bytes

namespace Roshambo.Hex

def pair (b : UInt8) : List Char := [Nat.digitChar (b.toNat / 16), Nat.digitChar (b.toNat % 16)]

def encode (bs : List UInt8) : String := String.ofList (bs.flatMap pair)

inductive Fault
  | oddLength
  | badByte (byte : UInt8) (position : Nat)
  deriving DecidableEq

def nibble? (b : UInt8) : Option Nat :=
  let n := b.toNat
  if 48 ≤ n ∧ n ≤ 57 then some (n - 48)
  else if 97 ≤ n ∧ n ≤ 102 then some (n - 87)
  else if 65 ≤ n ∧ n ≤ 70 then some (n - 55)
  else none

def nibble (b : UInt8) (position : Nat) : Except Fault Nat :=
  match nibble? b with
  | some n => .ok n
  | none => .error (.badByte b position)

def decodeFrom (position : Nat) : List UInt8 → Except Fault (List UInt8)
  | [] => .ok []
  | [_] => .error .oddLength
  | high :: low :: rest => do
    let h ← nibble high position
    let l ← nibble low (position + 1)
    let bs ← decodeFrom (position + 2) rest
    return UInt8.ofNat (16 * h + l) :: bs

def decode (text : String) : Except Fault (List UInt8) :=
  let bs := Text.bytes text
  if bs.length % 2 = 1 then .error .oddLength else decodeFrom 0 bs

def quotedByte (b : UInt8) : String :=
  let n := b.toNat
  if n = 0 then "'\\0'"
  else if n = 9 then "'\\t'"
  else if n = 10 then "'\\n'"
  else if n = 13 then "'\\r'"
  else if n = 39 then "'\\''"
  else if n = 92 then "'\\\\'"
  else if n < 32 ∨ (127 ≤ n ∧ n ≤ 160) ∨ n = 173 then
    "'\\u\x7b" ++ String.ofList (Nat.toDigits 16 n) ++ "\x7d'"
  else String.ofList ['\'', Char.ofNat n, '\'']

def Fault.message : Fault → String
  | .oddLength => "Odd number of digits"
  | .badByte b position => s!"Invalid character {quotedByte b} at position {position}"

end Roshambo.Hex
