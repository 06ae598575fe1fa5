import Roshambo.Text.Bytes

/-! The prefix of a Bech32 text: 1 to 83 visible ASCII characters whose letters are all of one case. It keeps its
case; checksums and written texts use its lower case. -/

namespace Roshambo.Bech32

inductive HrpFault
  | empty
  | tooLong (bytes : Nat)
  | notAscii (c : Char)
  | notVisible (code : Nat)
  | mixedCase
  deriving DecidableEq

def HrpFault.message : HrpFault → String
  | .empty => "hrp is empty, must have at least 1 character"
  | .tooLong n => s!"hrp is too long, found {n} characters, must be <= 126"
  | .notAscii c => "found non-ASCII character: " ++ String.ofList [c]
  | .notVisible code => "byte value is not valid US-ASCII: '" ++ String.ofList (Nat.toDigits 16 code) ++ "'"
  | .mixedCase => "hrp cannot mix upper and lower case"

def maxHrpBytes : Nat := 83

def firstFault (upper lower : Bool) : List Char → Option HrpFault
  | [] => none
  | c :: rest =>
    if 128 ≤ c.toNat then some (.notAscii c)
    else if c.toNat < 33 ∨ 126 < c.toNat then some (.notVisible c.toNat)
    else if (c.isLower ∧ upper) ∨ (c.isUpper ∧ lower) then some .mixedCase
    else firstFault (upper || c.isUpper) (lower || c.isLower) rest

def hrpFault? (text : String) : Option HrpFault :=
  if text = "" then some .empty
  else if maxHrpBytes < text.utf8ByteSize then some (.tooLong text.utf8ByteSize)
  else firstFault false false text.toList

structure Hrp where
  text : String
  sound : hrpFault? text = none
  deriving DecidableEq

def Hrp.parse (text : String) : Except HrpFault Hrp :=
  match h : hrpFault? text with
  | some fault => .error fault
  | none => .ok ⟨text, h⟩

def Hrp.lower (hrp : Hrp) : List Char := Text.lower hrp.text

end Roshambo.Bech32
