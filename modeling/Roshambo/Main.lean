import Roshambo.CommandLine.Run
import Roshambo.Node.DatabaseText
import Std.Time

namespace Roshambo.Main

open CommandLine

def faultOf : IO.Error → DiskFault
  | .noFileOrDirectory _ _ _ => .notFound
  | .alreadyExists _ _ _ => .alreadyThere
  | .inappropriateType _ code _ => if code = 21 then .isFolder else .notFolder
  | .invalidArgument _ code _ => if code = 36 then .nameTooLong else .other "Invalid argument (os error 22)"
  | .userError _ => .notText
  | e => .other (toString e)

def attempt {α : Type} (act : IO α) : IO (Except DiskFault α) := do
  try return .ok (← act) catch e => return .error (faultOf e)

def openFile (name : DatabaseName) (path : String) : IO (Except StorageFault Database) := do
  match ← attempt (IO.FS.readFile path) with
  | .ok content =>
    match Database.ofText? content with
    | some tables => return .ok tables
    | none => return .error .notDatabase
  | .error .notFound =>
    if ¬ name.mayCreate then return .error (.unopenable name.text)
    match ← attempt (IO.FS.writeFile path Database.empty.text) with
    | .ok () => return .ok .empty
    | .error _ => return .error (.unopenable name.text)
  | .error .notText => return .error .notDatabase
  | .error _ => return .error (.unopenable name.text)

def isFolder (path : String) : IO Bool :=
  return match ← attempt (IO.FS.createDir (path ++ "/.")) with
    | .error .alreadyThere => true
    | _ => false

instance : Disk IO where
  makeFolder path := attempt (IO.FS.createDir path)
  isFolder := isFolder
  readText path := attempt (IO.FS.readFile path)
  writeText path content := attempt (IO.FS.writeFile path content)
  openDatabase name :=
    match name.path with
    | some path => openFile name path
    | none => return .ok .empty
  saveDatabase name tables :=
    match name.path with
    | some path => IO.FS.writeFile path tables.text
    | none => return ()

def now : IO Instant := do
  let t ← Std.Time.Timestamp.now
  return (Instant.make? t.val.second.val t.val.nano.val.toNat).getD .epoch

def dataFolder : IO String := do
  match ← IO.getEnv "XDG_DATA_HOME", ← IO.getEnv "HOME" with
  | some folder, _ => return inFolder folder "rps"
  | none, some home => return inFolder (inFolder home ".local/share") "rps"
  | none, none => return "./rps"

def surroundings : IO Surroundings := do
  return ⟨← now, (← IO.getRandomBytes 32).toList, ← dataFolder⟩

end Roshambo.Main

open Roshambo CommandLine in
def main (words : List String) : IO UInt32 := do
  let response : Response ← CommandLine.run (← Main.surroundings) words
  for line in response.printed do IO.println line
  unless response.complaint = "" do IO.eprintln response.complaint
  return response.code.toUInt32
