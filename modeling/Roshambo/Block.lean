import Roshambo.LedgerError
import Roshambo.Time.Reader

namespace Roshambo

def Instant.toJson (t : Instant) : Json := .ofText t.timestamp

def Instant.ofJson? (j : Json) : Option Instant := j.text?.bind Instant.ofText?

structure Block where
  height : UInt64
  time : Instant
  deriving DecidableEq

namespace Block

def genesis (time : Instant) : Block := ⟨0, time⟩

def next (last : Block) (time : Instant) : Except LedgerError Block :=
  if time < last.time then .error (.clockWentBack last.time time)
  else .ok ⟨last.height + 1, time⟩

def toJson (b : Block) : Json := .record [("height", .ofWord b.height), ("time", b.time.toJson)]

def ofJson? (j : Json) : Option Block := do
  let [height, time] ← j.fields? ["height", "time"] 2 | none
  return ⟨← height.bind Json.word?, ← time.bind Instant.ofJson?⟩

end Block

end Roshambo
