import Roshambo.Json.Fields

namespace Roshambo

inductive Move
  | rock
  | paper
  | scissors
  deriving DecidableEq, Inhabited

inductive Outcome
  | firstWins
  | secondWins
  | draw
  deriving DecidableEq

namespace Move

def label : Move → String
  | rock => "rock"
  | paper => "paper"
  | scissors => "scissors"

def ofLabel? (text : String) : Option Move :=
  if text = "rock" then some rock
  else if text = "paper" then some paper
  else if text = "scissors" then some scissors
  else none

def beats : Move → Move → Bool
  | rock, scissors => true
  | scissors, paper => true
  | paper, rock => true
  | _, _ => false

def against (first second : Move) : Outcome :=
  if first = second then .draw else if first.beats second then .firstWins else .secondWins

theorem ofLabel?_label (m : Move) : ofLabel? m.label = some m := by cases m <;> decide

def toJson (m : Move) : Json := .ofText m.label

def ofJson? (j : Json) : Option Move := j.label?.bind ofLabel?

def ofKeptJson? (j : Json) : Option Move := j.keptLabel?.bind ofLabel?

end Move

end Roshambo
