import Roshambo.LedgerError
import Roshambo.Sha256
import Roshambo.Text.Hex

namespace Roshambo

structure Address where
  bytes : List UInt8
  deriving DecidableEq

namespace Address

instance : Ord Address := ⟨compareOn bytes⟩

instance : Std.TransOrd Address := inferInstanceAs (Std.TransCmp (compareOn bytes))

instance : Std.LawfulEqOrd Address where
  eq_of_compare {a b} h := by
    cases a; cases b
    exact congrArg mk (Std.LawfulEqOrd.eq_of_compare h)

instance : Inhabited Address := ⟨⟨[]⟩⟩

def moduleLength : Nat := 20

def ofModule (name : String) : Address := ⟨(Sha256.digest (Text.bytes name)).take moduleLength⟩

def hex (a : Address) : String := Hex.encode a.bytes

instance : ToString Address := ⟨hex⟩

def ofHex (text : String) : Except LedgerError Address :=
  match Hex.decode text with
  | .ok bytes => .ok ⟨bytes⟩
  | .error fault => .error (.invalidAddress s!"{text}: {fault.message}")

def toJson (a : Address) : Json := .ofText a.hex

def ofJson? (j : Json) : Option Address := j.text?.bind fun text => (ofHex text).toOption

end Address

structure Payout where
  recipient : Address
  amount : Amount
  deriving DecidableEq

namespace Payout

def toJson (p : Payout) : Json :=
  .record [("recipient", p.recipient.toJson), ("amount", p.amount.toJson)]

def ofJson? (j : Json) : Option Payout := do
  let [recipient, amount] ← j.fields? ["recipient", "amount"] 2 | none
  return ⟨← recipient.bind Address.ofJson?, ← amount.bind Amount.ofJson?⟩

end Payout

end Roshambo
