import Roshambo.CommandLine.DatabaseName
import Roshambo.CommandLine.Path
import Roshambo.Node.Database

namespace Roshambo.CommandLine

inductive DiskFault
  | notFound
  | alreadyThere
  | notFolder
  | isFolder
  | nameTooLong
  | notText
  | other (message : String)
  deriving DecidableEq

def DiskFault.message : DiskFault → String
  | .notFound => "No such file or directory (os error 2)"
  | .alreadyThere => "File exists (os error 17)"
  | .notFolder => "Not a directory (os error 20)"
  | .isFolder => "Is a directory (os error 21)"
  | .nameTooLong => "File name too long (os error 36)"
  | .notText => "stream did not contain valid UTF-8"
  | .other message => message

class Disk (m : Type → Type) where
  makeFolder : String → m (Except DiskFault Unit)
  isFolder : String → m Bool
  readText : String → m (Except DiskFault String)
  writeText : String → String → m (Except DiskFault Unit)
  /-- The database of that name; where there is none, an empty one is made. -/
  openDatabase : DatabaseName → m (Except StorageFault Database)
  saveDatabase : DatabaseName → Database → m Unit

def inFolder (folder name : String) : String :=
  if folder.toList.getLast? = some '/' then folder ++ name else folder ++ "/" ++ name

variable {m : Type → Type} [Monad m] [Disk m]

def allowFolder (path : String) : Except DiskFault Unit → m (Except DiskFault Unit)
  | .ok () => return .ok ()
  | .error fault => do
    if ← (Disk.isFolder path : m Bool) then return .ok () else return .error fault

/-- Makes the first of the folders; if it lacks a folder around it, the ones after it are made before. -/
def makeFolders : List String → m (Except DiskFault Unit)
  | [] => return .ok ()
  | path :: around => do
    match ← (Disk.makeFolder path : m _) with
    | .error .notFound =>
      match ← makeFolders around with
      | .ok () => allowFolder path (← Disk.makeFolder path)
      | .error fault => return .error fault
    | result => allowFolder path result

def createFolder (path : String) : m (Except DiskFault Unit) := makeFolders (path :: (Route.ofText path).around)

end Roshambo.CommandLine
