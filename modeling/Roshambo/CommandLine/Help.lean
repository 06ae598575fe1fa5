import Roshambo.CommandLine.Grammar
import Roshambo.Text.Width

namespace Roshambo.CommandLine

variable {α : Type}

def Argument.label (a : Argument) : String := if a.required then s!"<{a.name}>" else s!"[{a.name}]"

def Switch.label (s : Switch) : String :=
  let short := match s.short with
    | some c => s!"-{c}, "
    | none => "    "
  let value := match s.value with
    | some (name, _) => s!" <{name}>"
    | none => ""
  short ++ "--" ++ s.long ++ value

/-- Switches at one place of their lists are ordered by their letter, or by their name without one. -/
def Switch.key (s : Switch) : String :=
  match s.short with
  | some c => String.ofList [c.toLower, if c.isLower then '0' else '1']
  | none => s.long

namespace Help

def helpSwitch : Switch := ⟨"help", some 'h', none, "Print help"⟩

def versionSwitch : Switch := ⟨"version", some 'V', none, "Print version"⟩

def helpEntry : String × String := ("help", "Print this message or the help of the given subcommand(s)")

def before (a b : Switch × Nat) : Bool := a.2 < b.2 || (a.2 = b.2 && a.1.key ≤ b.1.key)

def switchesOf (g : Grammar α) (entry : Entry α) (isRoot : Bool) : List Switch :=
  ((entry.switches.zipIdx ++ g.common.zipIdx).mergeSort before).map (·.1) ++
    helpSwitch :: if isRoot then [versionSwitch] else []

def usage (g : Grammar α) (path : List String) (entry : Entry α) : String :=
  let takes := if entry.isGroup then ["<COMMAND>"] else entry.arguments.map Argument.label
  "Usage: " ++ " ".intercalate (g.root.name :: path ++ "[OPTIONS]" :: takes)

def titled (title : String) (rows : List (String × String)) : List String :=
  let width := (rows.map fun r => Text.width r.1).foldl max 0
  let blanks (n : Nat) : String := String.ofList (List.replicate n ' ')
  if rows.isEmpty then []
  else ["", title] ++ rows.map fun r => "  " ++ r.1 ++ blanks (width + 2 - Text.width r.1) ++ r.2

def lines (g : Grammar α) (path : List String) (entry : Entry α) : List String :=
  let commands := if entry.isGroup then entry.entries.map (fun e => (e.name, e.about)) ++ [helpEntry] else []
  [entry.about, "", usage g path entry] ++ titled "Commands:" commands ++
    titled "Arguments:" (entry.arguments.map fun a => (a.label, a.about)) ++
    titled "Options:" ((switchesOf g entry path.isEmpty).map fun s => (s.label, s.about))

def helpLines (g : Grammar α) (path : List String) : List String :=
  let usage := "Usage: " ++ " ".intercalate (g.root.name :: path ++ [helpEntry.1, "[COMMAND]..."])
  [helpEntry.2, "", usage] ++ titled "Arguments:" [("[COMMAND]...", "Print help for the subcommand(s)")]

end Help

end Roshambo.CommandLine
