import Roshambo.Game.Record
import Roshambo.Params

namespace Roshambo

inductive GenesisFault
  | params (fault : ParamsFault)
  | idNotBelowSequence (id nextId : GameId)
  | noEntryFee (id : GameId)
  | prizeOverflow (id : GameId)
  | duplicateGame (id : GameId)
  | unknownGame (id : GameId)
  | duplicateCommit (player : String) (id : GameId)
  | commitCount (id : GameId) (count : Nat)
  | earlyRevealDeadline (id : GameId)
  | revealWithoutCommit (player : String) (id : GameId)
  | duplicateReveal (player : String) (id : GameId)
  | noRevealDeadline (id : GameId)
  | unreadablePlayer (text : String) (cause : LedgerError)
  | missingGame (id : GameId)
  deriving DecidableEq

inductive GameError
  | invalidStake
  | invalidAddress (detail : String)
  | invalidMove (label : String)
  | invalidParams (fault : ParamsFault)
  | gameNotFound (id : GameId)
  | commitWindowClosed (id : GameId)
  | alreadyCommitted (id : GameId)
  | gameFull (id : GameId)
  | revealWindowClosed (id : GameId)
  | notCommitted (id : GameId)
  | gameNotFull (id : GameId)
  | alreadyRevealed (id : GameId)
  | commitmentMismatch (id : GameId)
  | unauthorized (expected got : String)
  | insufficientFunds (need available : Amount)
  | settlement (id : GameId) (cause : LedgerError)
  | overflow (what : String)
  | invalidGenesis (fault : GenesisFault)
  | ledger (cause : LedgerError)
  deriving DecidableEq

/-- What a caller may do: resubmit corrected input, wait for another state, suspect a cheat, or nothing. -/
inductive ErrorKind
  | validation
  | precondition
  | integrity
  | settlement
  | internal
  deriving DecidableEq

def invalidParamsMessage (fault : ParamsFault) : String := s!"Invalid params: {fault.message}"

def GenesisFault.message : GenesisFault → String
  | .params fault => invalidParamsMessage fault
  | .idNotBelowSequence id nextId => s!"game id {id.toNat} is not below the sequence {nextId.toNat}"
  | .noEntryFee id => s!"game {id.toNat} has no entry fee"
  | .prizeOverflow id => s!"prize of game {id.toNat} overflows"
  | .duplicateGame id => s!"duplicate game id {id.toNat}"
  | .unknownGame id => s!"commit for unknown game {id.toNat}"
  | .duplicateCommit player id => s!"duplicate commit by {player} in game {id.toNat}"
  | .commitCount id count => s!"game {id.toNat} has {count} commits"
  | .earlyRevealDeadline id => s!"game {id.toNat} has a reveal deadline before both players committed"
  | .revealWithoutCommit player id => s!"reveal by {player} in game {id.toNat} has no commit"
  | .duplicateReveal player id => s!"duplicate reveal by {player} in game {id.toNat}"
  | .noRevealDeadline id => s!"game {id.toNat} has reveals but no reveal deadline"
  | .unreadablePlayer text cause => s!"player {text}: {cause.message}"
  | .missingGame id => s!"commit for missing game {id.toNat}"

namespace GameError

def message : GameError → String
  | invalidStake => "Entry fee must be positive"
  | invalidAddress detail => s!"Invalid address: {detail}"
  | invalidMove label => s!"Invalid move '{label}': expected rock, paper or scissors"
  | invalidParams fault => invalidParamsMessage fault
  | gameNotFound id => s!"Game not found: {id.toNat}"
  | commitWindowClosed id => s!"Commit window closed for game {id.toNat}"
  | alreadyCommitted id => s!"Player already committed to game {id.toNat}"
  | gameFull id => s!"Game {id.toNat} is full"
  | revealWindowClosed id => s!"Reveal window closed for game {id.toNat}"
  | notCommitted id => s!"Player has no commitment in game {id.toNat}"
  | gameNotFull id => s!"Game {id.toNat} is waiting for a second player"
  | alreadyRevealed id => s!"Move already revealed in game {id.toNat}"
  | commitmentMismatch id => s!"Move doesn't match commitment in game {id.toNat}"
  | unauthorized expected got => s!"Unauthorized: expected authority {expected}, got {got}"
  | insufficientFunds need available => s!"Insufficient funds: need {need} sats, have {available} sats"
  | settlement id _ => s!"Settlement of game {id.toNat} failed"
  | overflow what => s!"Amount overflow: {what}"
  | invalidGenesis fault => s!"Invalid genesis state: {fault.message}"
  | ledger cause => s!"Core error: {cause.message}"

def kind : GameError → ErrorKind
  | invalidStake | invalidAddress _ | invalidMove _ | invalidParams _ => .validation
  | gameNotFound _ | commitWindowClosed _ | alreadyCommitted _ | gameFull _ | revealWindowClosed _
  | notCommitted _ | gameNotFull _ | alreadyRevealed _ | unauthorized _ _ | insufficientFunds _ _ => .precondition
  | commitmentMismatch _ => .integrity
  | settlement _ _ => .settlement
  | overflow _ | invalidGenesis _ | ledger _ => .internal

def isCheating : GameError → Bool
  | commitmentMismatch _ => true
  | _ => false

def cause? : GameError → Option LedgerError
  | settlement _ cause => some cause
  | _ => none

def ofLedger : LedgerError → GameError
  | .invalidAddress detail => invalidAddress detail
  | .insufficientFunds _ need available => insufficientFunds need available
  | .overflow what => overflow what
  | cause => ledger cause

end GameError

end Roshambo
