import Roshambo.Game.Error

namespace Roshambo

inductive Cause
  | ledger (error : LedgerError)
  | game (error : GameError)
  | other (message : String)
  deriving DecidableEq

/-- The outermost description comes first. -/
structure Failure where
  context : List String
  cause : Cause
  deriving DecidableEq

namespace Failure

def ofLedger (e : LedgerError) : Failure := ⟨[], .ledger e⟩

def ofGame (e : GameError) : Failure := ⟨[], .game e⟩

def within (description : String) (f : Failure) : Failure := { f with context := description :: f.context }

def causes : Cause → List String
  | .ledger (.storage fault) => [(LedgerError.storage fault).message, fault.message, fault.code]
  | .ledger e => [e.message]
  | .game e => e.message :: (e.cause?.map LedgerError.message).toList
  | .other message => [message]

def chain (f : Failure) : List String := f.context ++ causes f.cause

def line (f : Failure) : String := ": ".intercalate f.chain

def indent (width : Nat) (text : String) : String :=
  ("\n" ++ String.ofList (List.replicate width ' ')).intercalate (text.splitOn "\n")

def numbered (i : Nat) (text : String) : String :=
  let number := toString i
  String.ofList (List.replicate (5 - number.length) ' ') ++ number ++ ": " ++ indent 7 text

def report (f : Failure) : String :=
  match f.chain with
  | [] => ""
  | [outer] => outer
  | [outer, cause] => outer ++ "\n\nCaused by:\n    " ++ indent 4 cause
  | outer :: causes => outer ++ "\n\nCaused by:\n" ++ "\n".intercalate (causes.mapIdx numbered)

end Failure

end Roshambo
