import Roshambo.Json.Fields
import Roshambo.Json.Printer
import Roshambo.Node.Database

/-! The text in which the tables of a database are kept in a file. An empty file is an empty database. -/

namespace Roshambo.Database

def ofSigned (n : Int64) : Json := .number (String.ofList (Decimal.integer n.toInt))

def signed? : Json → Option Int64
  | .number literal => (Decimal.readInteger? literal.toList).map Int64.ofInt
  | _ => none

def tableJson {ν : Type} (encode : ν → Json) (rows : SortedMap String ν) : Json :=
  .array (rows.entries.map fun e => .array [.ofText e.1, encode e.2])

def table? {ν : Type} (decode : Json → Option ν) (j : Json) : Option (SortedMap String ν) := do
  let rows ← Json.list? (fun
    | .array [key, row] => do return (← key.text?, ← decode row)
    | _ => none) j
  return .ofList rows

def clockJson (row : ClockRow) : Json := .array [ofSigned row.height, ofSigned row.millis]

def clock? : Json → Option ClockRow
  | .array [height, millis] => do return ⟨← signed? height, ← signed? millis⟩
  | _ => none

def stateJson (row : StateRow) : Json := .array [.ofText row.text, ofSigned row.height]

def state? : Json → Option StateRow
  | .array [text, height] => do return ⟨← text.text?, ← signed? height⟩
  | _ => none

def toJson (db : Database) : Json :=
  .record [("clock", .ofOption clockJson db.clock), ("accounts", tableJson ofSigned db.accounts),
    ("pools", tableJson ofSigned db.pools), ("states", tableJson stateJson db.states)]

def ofJson? (j : Json) : Option Database := do
  let [clock, accounts, pools, states] ← j.fields? ["clock", "accounts", "pools", "states"] 4 | none
  return ⟨← clock.bind (Json.nullable? clock?), ← accounts.bind (table? signed?),
    ← pools.bind (table? signed?), ← states.bind (table? state?)⟩

def text (db : Database) : String := db.toJson.compact

def ofText? (text : String) : Option Database :=
  if text = "" then some empty else (Json.parse? text).bind ofJson?

end Roshambo.Database
