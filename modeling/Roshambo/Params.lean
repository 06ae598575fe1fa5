import Roshambo.Json.Fields

/-! The two windows of the game, in seconds, and what a sweep does after a refused payout. -/

namespace Roshambo

inductive Window
  | commit
  | reveal
  deriving DecidableEq

def Window.name : Window → String
  | .commit => "commit"
  | .reveal => "reveal"

inductive ParamsFault
  | notPositive (window : Window)
  | outOfRange (window : Window) (seconds : UInt64)
  deriving DecidableEq

def ParamsFault.message : ParamsFault → String
  | .notPositive window => s!"{window.name} window must be positive"
  | .outOfRange window seconds => s!"{window.name} window of {seconds.toNat} seconds is out of range"

structure Params where
  commitWindow : UInt64
  revealWindow : UInt64
  deriving DecidableEq

namespace Params

def initial : Params := ⟨60, 60⟩

instance : Inhabited Params := ⟨initial⟩

/-- The longest duration in seconds: its milliseconds must stay below `2 ^ 63`. -/
def maxSeconds : Nat := 9223372036854775

def duration? (window : UInt64) : Option Nat :=
  if window.toNat ≤ maxSeconds then some window.toNat else none

def validate (p : Params) : Except ParamsFault Unit :=
  if p.commitWindow = 0 then .error (.notPositive .commit)
  else if p.revealWindow = 0 then .error (.notPositive .reveal)
  else if duration? p.commitWindow = none then .error (.outOfRange .commit p.commitWindow)
  else if duration? p.revealWindow = none then .error (.outOfRange .reveal p.revealWindow)
  else .ok ()

def toJson (p : Params) : Json :=
  .record [("commit_window", .ofWord p.commitWindow), ("reveal_window", .ofWord p.revealWindow)]

def ofJson? (j : Json) : Option Params := do
  let [commit, reveal] ← j.fields? ["commit_window", "reveal_window"] 2 | none
  return ⟨← commit.bind Json.word?, ← reveal.bind Json.word?⟩

end Params

inductive SettlementPolicy
  | failFast
  | deferFailed
  deriving DecidableEq, Inhabited

namespace SettlementPolicy

def label : SettlementPolicy → String
  | failFast => "fail_fast"
  | deferFailed => "continue"

def title : SettlementPolicy → String
  | failFast => "FailFast"
  | deferFailed => "Continue"

def toJson (p : SettlementPolicy) : Json := .ofText p.label

def ofJson? (j : Json) : Option SettlementPolicy :=
  j.label?.bind fun text => [failFast, deferFailed].find? (·.label = text)

end SettlementPolicy

structure GameConfig where
  params : Params
  settlement : SettlementPolicy
  deriving DecidableEq

namespace GameConfig

def initial : GameConfig := ⟨.initial, .failFast⟩

def toJson (c : GameConfig) : Json :=
  .record [("params", c.params.toJson), ("settlement", c.settlement.toJson)]

def ofJson? (j : Json) : Option GameConfig := do
  let [params, settlement] ← j.fields? ["params", "settlement"] 0 | none
  return ⟨← params.elim (some initial.params) Params.ofJson?,
    ← settlement.elim (some initial.settlement) SettlementPolicy.ofJson?⟩

end GameConfig

end Roshambo
