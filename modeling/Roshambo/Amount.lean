import Roshambo.Json.Fields

/-! Amounts of money in satoshis, below `2 ^ 64`; arithmetic that would leave the range has no result. -/

namespace Roshambo

structure Amount where
  sats : UInt64
  deriving DecidableEq

namespace Amount

def zero : Amount := ⟨0⟩

instance : Inhabited Amount := ⟨zero⟩

instance : LT Amount := ⟨fun a b => a.sats < b.sats⟩

instance : LE Amount := ⟨fun a b => a.sats ≤ b.sats⟩

instance (a b : Amount) : Decidable (a < b) := inferInstanceAs (Decidable (a.sats < b.sats))

instance (a b : Amount) : Decidable (a ≤ b) := inferInstanceAs (Decidable (a.sats ≤ b.sats))

instance : ToString Amount := ⟨fun a => toString a.sats.toNat⟩

def toNat (a : Amount) : Nat := a.sats.toNat

def ofNat? (n : Nat) : Option Amount := if n < UInt64.size then some ⟨UInt64.ofNat n⟩ else none

def add? (a b : Amount) : Option Amount := ofNat? (a.toNat + b.toNat)

def sub? (a b : Amount) : Option Amount := if b ≤ a then some ⟨a.sats - b.sats⟩ else none

def times? (a : Amount) (n : Nat) : Option Amount := ofNat? (a.toNat * n)

def sum? (amounts : List Amount) : Option Amount := amounts.foldlM add? zero

def toJson (a : Amount) : Json := .ofWord a.sats

def ofJson? (j : Json) : Option Amount := j.word?.map Amount.mk

theorem toNat_ofNat? {n : Nat} {a : Amount} (h : ofNat? n = some a) : a.toNat = n := by
  unfold ofNat? at h
  split at h
  · obtain rfl := Option.some.inj h
    exact UInt64.toNat_ofNat_of_lt' (by assumption)
  · cases h

theorem toNat_sub? {a b c : Amount} (h : a.sub? b = some c) :
    b.toNat ≤ a.toNat ∧ c.toNat = a.toNat - b.toNat := by
  unfold sub? at h
  split at h
  · rename_i hle
    obtain rfl := Option.some.inj h
    exact ⟨hle, UInt64.toNat_sub_of_le _ _ hle⟩
  · cases h

end Amount

end Roshambo
