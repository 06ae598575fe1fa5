import Roshambo.Game.Move
import Roshambo.Sha256
import Roshambo.Text.Hex

/-! Commitments to a move: the digest of the move and a salt in hexadecimal, kept and compared as text. -/

namespace Roshambo

structure Commitment where
  text : String
  deriving DecidableEq, Inhabited

namespace Commitment

def opening (move : Move) (salt : String) : List UInt8 := Text.bytes (move.label ++ ":" ++ salt)

def of (move : Move) (salt : String) : Commitment := ⟨Hex.encode (Sha256.digest (opening move salt))⟩

def opensTo (c : Commitment) (move : Move) (salt : String) : Bool := of move salt = c

def toJson (c : Commitment) : Json := .ofText c.text

def ofJson? (j : Json) : Option Commitment := j.text?.map mk

end Commitment

end Roshambo
