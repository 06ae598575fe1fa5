import Roshambo.Json.Number

/-! A record is an object with each known key at most once and any other keys, or an array of its fields in order; a
field that may be left out comes last. -/

namespace Roshambo.Json

def word? : Json → Option UInt64
  | .number literal =>
    match Decimal.read? literal.toList with
    | some n => if n < UInt64.size then some (UInt64.ofNat n) else none
    | none => none
  | _ => none

def text? : Json → Option String
  | .string text => text
  | _ => none

def list? {α : Type} (decode : Json → Option α) : Json → Option (List α)
  | .array items => items.mapM decode
  | _ => none

def nullable? {α : Type} (decode : Json → Option α) : Json → Option (Option α)
  | .null => some none
  | value => (decode value).map some

def member? (name : String) (members : List (Option String × Json)) : Option (Option Json) :=
  match members.filter (·.1 = some name) with
  | [] => some none
  | [m] => some (some m.2)
  | _ => none

def members? (names : List String) (members : List (Option String × Json)) : Option (List (Option Json)) :=
  if members.all (·.1.isSome) then names.mapM (member? · members) else none

def fields? (names : List String) (least : Nat) : Json → Option (List (Option Json))
  | .object members => members? names members
  | .array items =>
    if least ≤ items.length ∧ items.length ≤ names.length then
      some (items.map some ++ List.replicate (names.length - items.length) none)
    else none
  | _ => none

def label? : Json → Option String
  | .string text => text
  | .object [(key, .null)] => key
  | _ => none

def maxDepth : Nat := 127

mutual

/-- Whether a value inside `depth` arrays and objects can be kept: its strings are texts, its numbers are finite
and its nesting stays within the limit. -/
def isKeepable (depth : Nat) : Json → Bool
  | .null => true
  | .bool _ => true
  | .number literal => isFinite literal
  | .string text => text.isSome
  | .array items => depth < maxDepth && areKeepable (depth + 1) items
  | .object members => depth < maxDepth && membersKeepable (depth + 1) members

def areKeepable (depth : Nat) : List Json → Bool
  | [] => true
  | item :: items => isKeepable depth item && areKeepable depth items

def membersKeepable (depth : Nat) : List (Option String × Json) → Bool
  | [] => true
  | (key, value) :: members => key.isSome && isKeepable depth value && membersKeepable depth members

end

def keptFields? (names : List String) (depth : Nat) : Json → Option (List (Option Json))
  | .object members => if membersKeepable (depth + 1) members then members? names members else none
  | _ => none

/-- Among kept members an empty object passes for null. -/
def keptLabel? : Json → Option String
  | .object [(key, .object [])] => key
  | value => label? value

end Roshambo.Json
