import Roshambo.Address.Basic
import Roshambo.Bech32.Encoding
import Roshambo.Text.Blank

namespace Roshambo

class AddressCodec (κ : Type) where
  decode : κ → String → Except LedgerError Address
  encode : κ → Address → Except LedgerError String

structure Bech32Codec where
  hrp : Bech32.Hrp
  deriving DecidableEq

namespace Bech32Codec

def maxAddressLength : Nat := 255

def new (text : String) : Except LedgerError Bech32Codec :=
  match Bech32.Hrp.parse text with
  | .ok hrp => .ok ⟨hrp⟩
  | .error fault => .error (.config s!"invalid bech32 prefix '{text}': {fault.message}")

def decode (codec : Bech32Codec) (text : String) : Except LedgerError Address :=
  if Text.dropBlanks text.toList = [] then .error (.invalidAddress "empty address string")
  else match Bech32.decode text with
    | .error fault => .error (.invalidAddress s!"{text}: {fault.message}")
    | .ok ⟨hrp, bytes⟩ =>
      if ¬ Text.sameLetters hrp.text codec.hrp.text then
        .error (.invalidAddress s!"{text}: expected prefix '{codec.hrp.text}', got '{hrp.text}'")
      else if bytes = [] ∨ maxAddressLength < bytes.length then
        .error (.invalidAddress s!"{text}: address length {bytes.length} out of range")
      else .ok ⟨bytes⟩

def encode (codec : Bech32Codec) (address : Address) : Except LedgerError String :=
  if address.bytes = [] then .error (.invalidAddress "empty address bytes")
  else match Bech32.encode? codec.hrp address.bytes with
    | some text => .ok text
    | none => .error (.invalidAddress s!"{address}: encode error")

instance : AddressCodec Bech32Codec := ⟨decode, encode⟩

end Bech32Codec

end Roshambo
