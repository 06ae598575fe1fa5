import Roshambo.Text.Decimal

/-! JSON values as they stand in a text: numbers keep their literal, members their order and repetitions. A string
whose escapes leave a surrogate unpaired is well-formed but is no text. -/

namespace Roshambo

inductive Json
  | null
  | bool (b : Bool)
  | number (literal : String)
  | string (text : Option String)
  | array (items : List Json)
  | object (members : List (Option String × Json))
  deriving Inhabited

namespace Json

def ofText (s : String) : Json := .string (some s)

def ofNat (n : Nat) : Json := .number (String.ofList (Decimal.digits n))

def ofWord (n : UInt64) : Json := ofNat n.toNat

def record (members : List (String × Json)) : Json := .object (members.map fun m => (some m.1, m.2))

def ofOption {α : Type} (encode : α → Json) : Option α → Json
  | some a => encode a
  | none => .null

end Json

end Roshambo
