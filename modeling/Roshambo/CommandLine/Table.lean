import Roshambo.Text.Width

namespace Roshambo.CommandLine

structure Table where
  header : List String
  rows : List (List String)
  deriving DecidableEq

namespace Table

def cellLines (cell : String) : List String := cell.splitOn "\n"

def cellWidth (cell : String) : Nat := ((cellLines cell).map Text.width).foldl max 0

def rowWidths (row : List String) : List Nat := row.map cellWidth

def widths (t : Table) : List Nat :=
  t.rows.foldl (fun ws row => List.zipWith max ws (rowWidths row)) (rowWidths t.header)

def padded (width : Nat) (text : String) : String :=
  text ++ String.ofList (List.replicate (width - Text.width text) ' ')

structure Rule where
  left : String
  run : Char
  cross : String
  right : String

def topRule : Rule := ⟨"┌", '─', "┬", "┐"⟩

def headerRule : Rule := ⟨"╞", '═', "╪", "╡"⟩

def rowRule : Rule := ⟨"├", '╌', "┼", "┤"⟩

def bottomRule : Rule := ⟨"└", '─', "┴", "┘"⟩

def Rule.line (rule : Rule) (widths : List Nat) : String :=
  rule.left ++ rule.cross.intercalate (widths.map fun w => String.ofList (List.replicate (w + 2) rule.run)) ++
    rule.right

def textLine (widths : List Nat) (row : List String) (height : Nat) : String :=
  let text (width : Nat) (cell : String) : String := padded width ((cellLines cell)[height]?.getD "")
  "│ " ++ " ┆ ".intercalate (List.zipWith text widths row) ++ " │"

def rowLines (widths : List Nat) (row : List String) : List String :=
  let height := (row.map fun cell => (cellLines cell).length).foldl max 1
  (List.range height).map (textLine widths row)

def lines (t : Table) : List String :=
  let ws := t.widths
  let rows := [rowRule.line ws].intercalate (t.rows.map (rowLines ws))
  [topRule.line ws] ++ rowLines ws t.header ++ [headerRule.line ws] ++ rows ++ [bottomRule.line ws]

end Table

end Roshambo.CommandLine
