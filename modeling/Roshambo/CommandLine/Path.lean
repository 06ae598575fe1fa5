namespace Roshambo.CommandLine

/-- A place by the names of the folders down to it; paths that start with a slash have their own root. -/
abbrev Path := List String

namespace Path

def root : Path := ["/"]

def up (path : Path) : Path := if path = root then root else path.dropLast

def walk (path : Path) (name : String) : Path :=
  if name = "." then path else if name = ".." then path.up else path ++ [name]

end Path

structure Route where
  start : Path
  names : List String
  isFolder : Bool
  deriving DecidableEq

namespace Route

def ofText (text : String) : Route where
  start := if text.toList.head? = some '/' then Path.root else []
  names := ((text.toList.splitOn '/').map String.ofList).filter (· ≠ "")
  isFolder := text.toList.getLast? = some '/'

/-- The place of a route, as if all folders on the way were there. -/
def place (r : Route) : Path := r.names.foldl Path.walk r.start

/-- The names of a route that are not a lone point; a point stays where it stands for the working folder. -/
def steps (r : Route) : List String :=
  match r.start, r.names with
  | [], "." :: names => "." :: names.filter (· ≠ ".")
  | _, names => names.filter (· ≠ ".")

def around (r : Route) : List String :=
  let lead := if r.start = Path.root then "/" else ""
  let folders := (List.range r.steps.length).reverse.map fun n => lead ++ "/".intercalate (r.steps.take n)
  folders.filter (· ≠ "")

end Route

end Roshambo.CommandLine
