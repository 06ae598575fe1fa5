import Roshambo.CommandLine.Path
import Roshambo.Node.Database

/-! Trees of folders and files. Of two entries of one name the first counts. -/

namespace Roshambo.CommandLine

inductive Tree
  | folder (entries : List (String × Tree))
  | text (content : String)
  | database (tables : Database)

namespace Tree

def empty : Tree := .folder []

def isFolder : Tree → Bool
  | .folder _ => true
  | _ => false

def entries : Tree → List (String × Tree)
  | .folder entries => entries
  | _ => []

def child? (t : Tree) (name : String) : Option Tree := t.entries.lookup name

def find? (t : Tree) (path : Path) : Option Tree := path.foldlM child? t

def hasFolder (t : Tree) (path : Path) : Bool := (t.find? path).any isFolder

-- The entry that counts is replaced where it stands, so that putting back what is there changes nothing.
def replace (name : String) (new : Tree) : List (String × Tree) → List (String × Tree)
  | [] => [(name, new)]
  | entry :: entries => if entry.1 = name then (name, new) :: entries else entry :: replace name new entries

/-- The tree with a new entry at a place; where the way to it is missing, folders are made. -/
def put : Tree → Path → Tree → Tree
  | _, [], new => new
  | t, name :: path, new => .folder (replace name (put ((t.child? name).getD empty) path new) t.entries)

end Tree

end Roshambo.CommandLine
