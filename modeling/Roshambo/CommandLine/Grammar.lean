import Roshambo.Text.Decimal

namespace Roshambo.CommandLine

inductive Kind
  | text
  | path
  | word
  | integer
  deriving DecidableEq

inductive Value
  | on
  | text (content : String)
  | word (n : UInt64)
  | integer (n : Int)
  deriving DecidableEq

def Kind.read? (text : String) : Kind → Option Value
  | .text => some (.text text)
  | .path => if text = "" then none else some (.text text)
  | .word => (Decimal.readWord? text.toList).map .word
  | .integer => (Decimal.readInteger? text.toList).map .integer

structure Argument where
  name : String
  kind : Kind
  about : String
  required : Bool
  deriving DecidableEq

structure Switch where
  long : String
  short : Option Char
  value : Option (String × Kind)
  about : String
  deriving DecidableEq

abbrev Settings := List (String × Value)

structure Matches where
  arguments : List Value
  settings : Settings
  deriving DecidableEq

namespace Matches

def get? (m : Matches) (name : String) : Option Value := m.settings.lookup name

def text? (m : Matches) (name : String) : Option String :=
  match m.get? name with
  | some (.text content) => some content
  | _ => none

def integer? (m : Matches) (name : String) : Option Int :=
  match m.get? name with
  | some (.integer n) => some n
  | _ => none

def isOn (m : Matches) (name : String) : Bool := (m.get? name).isSome

end Matches

inductive Entry (α : Type)
  | command (name about : String) (arguments : List Argument) (switches : List Switch)
    (meaning : Matches → Option α)
  | group (name about : String) (entries : List (Entry α))

namespace Entry

variable {α : Type}

def name : Entry α → String
  | command name _ _ _ _ => name
  | group name _ _ => name

def about : Entry α → String
  | command _ about _ _ _ => about
  | group _ about _ => about

def arguments : Entry α → List Argument
  | command _ _ arguments _ _ => arguments
  | group _ _ _ => []

def switches : Entry α → List Switch
  | command _ _ _ switches _ => switches
  | group _ _ _ => []

def entries : Entry α → List (Entry α)
  | command _ _ _ _ _ => []
  | group _ _ entries => entries

def isGroup : Entry α → Bool
  | command _ _ _ _ _ => false
  | group _ _ _ => true

def find? (entry : Entry α) (name : String) : Option (Entry α) := entry.entries.find? (·.name = name)

end Entry

structure Grammar (α : Type) where
  root : Entry α
  common : List Switch
  version : String

end Roshambo.CommandLine
