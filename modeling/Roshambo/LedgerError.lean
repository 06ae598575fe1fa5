import Roshambo.Amount
import Roshambo.Time.Printer

namespace Roshambo

inductive StorageFault
  | unopenable (file : String)
  | notDatabase
  | unknownAuthority (name : String)
  | unknownMode (option value : String)
  | unknownSystem (name : String)
  deriving DecidableEq

namespace StorageFault

def message : StorageFault → String
  | unopenable file => s!"unable to open database file: {file}"
  | notDatabase => "file is not a database"
  | unknownAuthority name => s!"invalid uri authority: {name}"
  | unknownMode option value => s!"no such {option} mode: {value}"
  | unknownSystem name => s!"no such vfs: {name}"

def code : StorageFault → String
  | unopenable _ => "Error code 14: Unable to open the database file"
  | notDatabase => "Error code 26: File opened that is not a database file"
  | unknownAuthority _ | unknownMode _ _ | unknownSystem _ => "Error code 1: SQL error or missing database"

end StorageFault

inductive LedgerError
  | storage (fault : StorageFault)
  | malformedState
  | config (detail : String)
  | invalidAddress (detail : String)
  | insufficientFunds (account : String) (need available : Amount)
  | overflow (what : String)
  | clockWentBack (current requested : Instant)
  | internal (detail : String)
  deriving DecidableEq

def LedgerError.message : LedgerError → String
  | .storage fault => s!"Storage error: {fault.message}"
  | .malformedState => "Serialization error: malformed state"
  | .config detail => s!"Invalid configuration: {detail}"
  | .invalidAddress detail => s!"Invalid address: {detail}"
  | .insufficientFunds account need available =>
    s!"Insufficient funds in {account}: need {need} sats, have {available} sats"
  | .overflow what => s!"Amount overflow: {what}"
  | .clockWentBack current requested =>
    s!"Block time went backwards: {current.spoken} -> {requested.spoken}"
  | .internal detail => s!"Internal error: {detail}"

end Roshambo
