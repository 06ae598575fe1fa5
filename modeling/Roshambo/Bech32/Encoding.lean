import Roshambo.Bech32.Checksum
import Roshambo.Bech32.Payload

/-! Texts of the form `hrp 1 data checksum`. Writing uses the first checksum variant and lower case; reading takes
both variants and either case, not a mixture of cases. -/

namespace Roshambo.Bech32

def maxLength : Nat := 1023

def separator : Char := '1'

def encode? (hrp : Hrp) (bytes : List UInt8) : Option String :=
  let data := symbolsOfBytes bytes
  let cs := hrp.lower ++ separator :: (data ++ checksum hrp data).map Symbol.toChar
  if cs.length ≤ maxLength then some (String.ofList cs) else none

inductive DecodeFault
  | malformed
  | unsound
  deriving DecidableEq

def DecodeFault.message : DecodeFault → String
  | .malformed => "parsing failed"
  | .unsound => "no valid bech32 or bech32m checksum"

def splitLast (cs : List Char) : Option (List Char × List Char) :=
  let after := cs.reverse.takeWhile (· ≠ separator)
  match cs.reverse.dropWhile (· ≠ separator) with
  | [] => none
  | _ :: before => some (before.reverse, after.reverse)

def mixesCase (cs : List Char) : Bool := cs.any Char.isUpper && cs.any Char.isLower

structure Decoded where
  hrp : Hrp
  bytes : List UInt8

def decode (text : String) : Except DecodeFault Decoded := do
  let some (before, after) := splitLast text.toList | throw .malformed
  let some symbols := after.mapM Symbol.ofChar? | throw .malformed
  if mixesCase text.toList then throw .malformed
  let hrp ← (Hrp.parse (String.ofList before)).mapError fun _ => .malformed
  if maxLength < text.utf8ByteSize ∨ symbols.length < checksumLength ∨ ¬ isSound hrp symbols then
    throw .unsound
  return ⟨hrp, bytesOfSymbols (symbols.take (symbols.length - checksumLength))⟩

end Roshambo.Bech32
