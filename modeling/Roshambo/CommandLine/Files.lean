import Roshambo.CommandLine.Disk
import Roshambo.CommandLine.Tree

/-! A disk in memory: the tree below the working folder, and another one below a slash. -/

namespace Roshambo.CommandLine

structure Files where
  tree : Tree
  /-- The bytes in the full name of the working folder; none where it is the root. -/
  workingName : Nat

namespace Files

def maxName : Nat := 255

def maxRoute : Nat := 4095

/-- The greatest number of bytes in the full name of a database; its journal needs eight more. -/
def maxDatabaseName : Nat := 504

def empty : Files := ⟨Tree.empty.put Path.root .empty, 0⟩

def enter (fs : Files) (place : Path) (name : String) : Except DiskFault Path :=
  if name = "." ∨ name = ".." then .ok (place.walk name)
  else if maxName < name.utf8ByteSize then .error .nameTooLong
  else match fs.tree.find? (place ++ [name]) with
    | some (.folder _) => .ok (place ++ [name])
    | some _ => .error .notFolder
    | none => .error .notFound

inductive Target
  | folder
  | entry (place : Path) (name : String) (isFolder : Bool) (entry : Option Tree)

def target (fs : Files) (text : String) : Except DiskFault Target :=
  let route := Route.ofText text
  if text = "" then .error .notFound
  else if maxRoute < text.utf8ByteSize then .error .nameTooLong
  else do
    let around ← route.names.dropLast.foldlM fs.enter route.start
    match route.names.getLast? with
    | none => return .folder
    | some name =>
      if name = "." ∨ name = ".." then return .folder
      else return .entry (around ++ [name]) name route.isFolder (fs.tree.find? (around ++ [name]))

def checkName (name : String) : Except DiskFault Unit :=
  if maxName < name.utf8ByteSize then .error .nameTooLong else .ok ()

def put (fs : Files) (place : Path) (entry : Tree) : Files := { fs with tree := fs.tree.put place entry }

def readText (fs : Files) (text : String) : Except DiskFault String := do
  match ← fs.target text with
  | .folder => .error .isFolder
  | .entry _ name isFolder entry =>
    checkName name
    match entry, isFolder with
    | none, _ => .error .notFound
    | some (.folder _), _ => .error .isFolder
    | some _, true => .error .notFolder
    | some (.text content), false => .ok content
    | some (.database _), false => .error .notText

-- No file is made where the path asks for a folder.
def writeText (fs : Files) (text content : String) : Except DiskFault Files := do
  match ← fs.target text with
  | .folder => .error .isFolder
  | .entry _ _ true _ => .error .isFolder
  | .entry place name false entry =>
    checkName name
    if entry.any Tree.isFolder then .error .isFolder else .ok (fs.put place (.text content))

def makeFolder (fs : Files) (text : String) : Except DiskFault Files := do
  match ← fs.target text with
  | .folder => .error .alreadyThere
  | .entry place name _ entry =>
    checkName name
    if entry.isSome then .error .alreadyThere else .ok (fs.put place .empty)

def isFolder (fs : Files) (text : String) : Bool :=
  match fs.target text with
  | .ok .folder => true
  | .ok (.entry _ _ _ entry) => entry.any Tree.isFolder
  | .error _ => false

def fullName (fs : Files) (path : Path) : Nat :=
  let names := path.filter (· ≠ "/")
  names.foldl (fun n name => n + name.utf8ByteSize + 1) (if path.head? = some "/" then 0 else fs.workingName)

/-- A database is looked for at the place of its path, whatever folders the path goes through; an empty file is an
empty database. -/
def openFile (fs : Files) (name : DatabaseName) (place : Path) : Except StorageFault Database :=
  if maxDatabaseName < fs.fullName place ∨ ¬ fs.tree.hasFolder place.dropLast then .error (.unopenable name.text)
  else match fs.tree.find? place with
    | some (.database tables) => .ok tables
    | some (.text content) => if content = "" then .ok .empty else .error .notDatabase
    | some (.folder _) => .error (.unopenable name.text)
    | none => if name.mayCreate then .ok .empty else .error (.unopenable name.text)

def databasePath (name : DatabaseName) : Option Path := name.path.map fun text => (Route.ofText text).place

def saveDatabase (fs : Files) (name : DatabaseName) (tables : Database) : Files :=
  match databasePath name with
  | some path => fs.put path (.database tables)
  | none => fs

def openDatabase (fs : Files) (name : DatabaseName) : Except StorageFault Database :=
  match databasePath name with
  | some path => fs.openFile name path
  | none => .ok .empty

end Files

def update (change : Files → Except DiskFault Files) : StateM Files (Except DiskFault Unit) := fun fs =>
  match change fs with
  | .ok fs => (.ok (), fs)
  | .error e => (.error e, fs)

instance : Disk (StateM Files) where
  makeFolder path := update fun fs => fs.makeFolder path
  isFolder path := fun fs => (fs.isFolder path, fs)
  readText path := fun fs => (fs.readText path, fs)
  writeText path content := update fun fs => fs.writeText path content
  openDatabase name := fun fs =>
    match fs.openDatabase name with
    | .ok tables => (.ok tables, fs.saveDatabase name tables)
    | .error e => (.error e, fs)
  saveDatabase name tables := modify fun fs => fs.saveDatabase name tables

end Roshambo.CommandLine
