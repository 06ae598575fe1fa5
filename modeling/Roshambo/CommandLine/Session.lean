import Roshambo.CommandLine.Disk
import Roshambo.CommandLine.Table
import Roshambo.Node.Basic

namespace Roshambo.CommandLine

structure Session where
  node : Node
  database : DatabaseName
  printed : List String

/-- What was printed before a failure stays printed. -/
abbrev Shell (m : Type → Type) := ExceptT Failure (StateT Session m)

namespace Shell

variable {m : Type → Type} [Monad m] {α : Type}

def node : Shell m Node := return (← get).node

def say (line : String) : Shell m Unit := modify fun s => { s with printed := s.printed ++ [line] }

def sayAll (lines : List String) : Shell m Unit := modify fun s => { s with printed := s.printed ++ lines }

def onLedger : Except LedgerError α → Shell m α
  | .ok a => pure a
  | .error e => throw (.ofLedger e)

def onGame : Except GameError α → Shell m α
  | .ok a => pure a
  | .error e => throw (.ofGame e)

variable [Disk m]

def perform (action : NodeAction α) : Shell m α := do
  let session ← get
  let (result, node) : Except Failure α × Node := match action session.node with
    | .ok a node => (.ok a, node)
    | .error e node => (.error e, node)
  set { session with node := node }
  (Disk.saveDatabase session.database node.database : m Unit)
  ofExcept result

def request (what file : String) (answer : m (Except DiskFault α)) : Shell m α := do
  match ← (answer : m _) with
  | .ok a => return a
  | .error fault => throw ⟨[s!"{what} {file}"], .other fault.message⟩

end Shell

end Roshambo.CommandLine
