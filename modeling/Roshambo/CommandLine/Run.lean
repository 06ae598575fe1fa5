import Roshambo.CommandLine.Execution

/-! A whole run. The time of the block is checked after the folder is open. -/

namespace Roshambo.CommandLine

structure Response where
  code : UInt8
  printed : List String
  complaint : String
  deriving DecidableEq

variable {m : Type → Type} [Monad m] [Disk m]

def configName : String := "config.json"

def databaseName : String := "rps.db"

def loadConfig (folder : String) : ExceptT Failure m NodeConfig := do
  let file := inFolder folder configName
  match ← (Disk.readText file : m _) with
  | .ok text =>
    match NodeConfig.ofText? text with
    | some config => return config
    | none => throw ⟨[], .other s!"parsing {file}"⟩
  | .error .notFound =>
    match ← (Disk.writeText file NodeConfig.initial.toJson.pretty : m _) with
    | .ok () => return .initial
    | .error fault => throw ⟨[], .other fault.message⟩
  | .error .nameTooLong => throw ⟨[], .other DiskFault.nameTooLong.message⟩
  | .error fault => throw ⟨[s!"reading {file}"], .other fault.message⟩

def openFolder (folder : String) : ExceptT Failure m Session := do
  match ← (createFolder folder : m _) with
  | .ok () => pure ()
  | .error fault => throw ⟨[], .other fault.message⟩
  let config ← loadConfig folder
  ofExcept config.validate
  let onStorage {α : Type} (result : Except StorageFault α) : Except Failure α :=
    result.mapError fun fault => .ofLedger (.storage fault)
  let name ← ofExcept (onStorage (DatabaseName.ofText (inFolder folder databaseName)))
  let tables ← ofExcept (onStorage (← (Disk.openDatabase name : m _)))
  let node ← ofExcept (Node.restore config tables)
  return ⟨node, name, []⟩

def blockTime (around : Surroundings) : Option Int → Except Failure Instant
  | none => .ok around.now
  | some seconds =>
    match Instant.make? seconds 0 with
    | some time => .ok time
    | none => .error ⟨[], .other s!"block time {seconds} is out of range"⟩

def prepare (around : Surroundings) (request : Request) : ExceptT Failure m (Session × Instant) := do
  let session ← openFolder (request.folder.getD around.folder)
  let time ← ofExcept (blockTime around request.time)
  return (session, time)

def misuseComplaint : String :=
  "\n".intercalate [Help.usage Request.grammar [] Request.grammar.root, "", "For more information, try '--help'."]

def run (around : Surroundings) (words : List String) : m Response := do
  match Request.grammar.read words with
  | .error .misuse => return ⟨2, [], misuseComplaint⟩
  | .error (.shown lines) => return ⟨0, lines, ""⟩
  | .ok request =>
    match ← (prepare around request).run with
    | .error failure => return ⟨1, [], "Error: " ++ failure.report⟩
    | .ok (session, time) =>
      match ← (Shell.execute around time request.command).run.run session with
      | (.ok (), session) => return ⟨0, session.printed, ""⟩
      | (.error failure, session) => return ⟨1, session.printed, "Error: " ++ failure.line⟩

end Roshambo.CommandLine
